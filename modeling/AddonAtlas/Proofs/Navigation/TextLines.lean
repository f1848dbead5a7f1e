import AddonAtlas.Navigation
import AddonAtlas.Proofs.Bytes
import Mathlib.Data.List.TakeWhile

/-!
# Lines of a text

The lines that an excerpt is cut from end with a newline, a carriage return, or both in this
order (`textLinesOf`) ; a window of a text is a part of the list of these lines (`textWindow_eq`).
The search program counts newlines only. In front of a place the counts agree up to the carriage
returns that stand alone (`length_textLinesOf`), and of the line that the search program sees at
the place, the text has the part in front of the first carriage return (`head?_textLinesOf`).
-/

namespace AddonAtlas

open Bytes (newline carriageReturn Ended LineAt)

/-! ## Lines of a list -/

/-- The lines of a text without their ends : a carriage return, a newline, or both in this order
end a line. -/
def textLinesOf : List UInt8 → List (List UInt8)
  | [] => []
  | b :: t =>
    if b = newline then [] :: textLinesOf t
    else if b = carriageReturn then
      -- a newline behind it ends the line
      if t.head? = some newline then textLinesOf t else [] :: textLinesOf t
    else
      match textLinesOf t with
      | [] => [[b]]
      | l :: ls => (b :: l) :: ls

/-- The number of carriage returns without a newline behind them. -/
def strays : List UInt8 → Nat
  | [] => 0
  | b :: t => (if b = carriageReturn ∧ t.head? ≠ some newline then 1 else 0) + strays t

@[simp] theorem textLinesOf_nil : textLinesOf [] = [] := rfl

@[simp] theorem textLinesOf_newline (t : List UInt8) :
    textLinesOf (newline :: t) = [] :: textLinesOf t := by
  rw [textLinesOf, if_pos rfl]

theorem carriageReturn_ne_newline : carriageReturn ≠ newline := by decide

@[simp] theorem textLinesOf_pair (t : List UInt8) :
    textLinesOf (carriageReturn :: newline :: t) = [] :: textLinesOf t := by
  rw [textLinesOf, if_neg carriageReturn_ne_newline, if_pos rfl, List.head?_cons, if_pos rfl,
    textLinesOf_newline]

theorem textLinesOf_stray {t : List UInt8} (ht : t.head? ≠ some newline) :
    textLinesOf (carriageReturn :: t) = [] :: textLinesOf t := by
  rw [textLinesOf, if_neg carriageReturn_ne_newline, if_pos rfl, if_neg ht]

/-- A carriage return ends a line in any case. -/
theorem exists_textLinesOf_carriageReturn (t : List UInt8) :
    ∃ ls, textLinesOf (carriageReturn :: t) = [] :: ls := by
  by_cases ht : t.head? = some newline
  · obtain ⟨t, rfl⟩ := List.head?_eq_some_iff.1 ht
    exact ⟨_, textLinesOf_pair t⟩
  · exact ⟨_, textLinesOf_stray ht⟩

theorem textLinesOf_eq_nil {l : List UInt8} : textLinesOf l = [] ↔ l = [] := by
  refine ⟨fun h => ?_, fun h => by rw [h]; rfl⟩
  induction l with
  | nil => rfl
  | cons b t ih =>
    rw [textLinesOf] at h
    split at h
    · cases h
    · split at h
      · split at h
        · next ht => simp [ih h] at ht
        · cases h
      · split at h <;> cases h

/-- What stands in front of the first end of a line is the first line. -/
theorem textLinesOf_append {m l : List UInt8} {ls : List (List UInt8)} (hn : newline ∉ m)
    (hc : carriageReturn ∉ m) (h : textLinesOf l = [] :: ls) :
    textLinesOf (m ++ l) = m :: ls := by
  induction m with
  | nil => exact h
  | cons b m ih =>
    obtain ⟨hbn, hn⟩ : b ≠ newline ∧ newline ∉ m := by simpa [eq_comm] using hn
    obtain ⟨hbc, hc⟩ : b ≠ carriageReturn ∧ carriageReturn ∉ m := by simpa [eq_comm] using hc
    rw [List.cons_append, textLinesOf, if_neg hbn, if_neg hbc, ih hn hc]

theorem textLinesOf_of_notMem {m : List UInt8} (hn : newline ∉ m) (hc : carriageReturn ∉ m)
    (hne : m ≠ []) : textLinesOf m = [m] := by
  induction m with
  | nil => exact absurd rfl hne
  | cons b m ih =>
    obtain ⟨hbn, hn⟩ : b ≠ newline ∧ newline ∉ m := by simpa [eq_comm] using hn
    obtain ⟨hbc, hc⟩ : b ≠ carriageReturn ∧ carriageReturn ∉ m := by simpa [eq_comm] using hc
    rw [textLinesOf, if_neg hbn, if_neg hbc]
    cases m with
    | nil => rfl
    | cons x t => rw [ih hn hc (List.cons_ne_nil x t)]

/-! ## Lines in front of a place -/

/-- Whole lines are not changed by what comes behind. -/
theorem textLinesOf_append_of_ended {l : List UInt8} (h : Ended l) (rest : List UInt8) :
    textLinesOf (l ++ rest) = textLinesOf l ++ textLinesOf rest := by
  induction l with
  | nil => rfl
  | cons b t ih =>
    rcases h.cons with ⟨rfl, rfl⟩ | ⟨hne, ht⟩
    · simp
    · have hhead : (t ++ rest).head? = t.head? := by
        obtain ⟨c, u, rfl⟩ := List.exists_cons_of_ne_nil hne
        rfl
      rw [List.cons_append, textLinesOf, textLinesOf, ih ht, hhead]
      split
      · rfl
      · split
        · split <;> rfl
        · cases hlines : textLinesOf t with
          | nil => exact absurd (textLinesOf_eq_nil.1 hlines) hne
          | cons line lines => rfl

/-- Whole lines are as many as their newlines and the carriage returns that stand alone. -/
theorem length_textLinesOf {l : List UInt8} (h : Ended l) :
    (textLinesOf l).length = l.count newline + strays l := by
  induction l with
  | nil => rfl
  | cons b t ih =>
    rcases h.cons with ⟨rfl, rfl⟩ | ⟨hne, ht⟩
    · rfl
    · have ih := ih ht
      rw [textLinesOf, strays, List.count_cons]
      by_cases hbn : b = newline
      · rw [if_pos hbn, if_pos (beq_iff_eq.2 hbn), if_neg fun h => carriageReturn_ne_newline
          (h.1.symm.trans hbn), List.length_cons, ih]
        omega
      · have hbn' : ¬(b == newline) = true := mt beq_iff_eq.1 hbn
        rw [if_neg hbn, if_neg hbn']
        by_cases hbc : b = carriageReturn
        · rw [if_pos hbc]
          by_cases hpair : t.head? = some newline
          · rw [if_pos hpair, if_neg fun h => h.2 hpair, ih]
            omega
          · rw [if_neg hpair, if_pos ⟨hbc, hpair⟩, List.length_cons, ih]
            omega
        · rw [if_neg hbc, if_neg fun h => hbc h.1, Nat.add_zero, Nat.zero_add, ← ih]
          cases hlines : textLinesOf t with
          | nil => exact absurd (textLinesOf_eq_nil.1 hlines) hne
          | cons line lines => rfl

/-- Of a line between newlines, the text has the part in front of the first carriage return. -/
theorem head?_textLinesOf {line after : List UInt8} (hfree : newline ∉ line) (hne : line ≠ [])
    (hafter : after = [] ∨ ∃ t, after = newline :: t) :
    (textLinesOf (line ++ after)).head? = some (line.takeWhile (· != carriageReturn)) := by
  have hsplit := List.takeWhile_append_dropWhile (p := (· != carriageReturn)) (l := line)
  have hn : newline ∉ line.takeWhile (· != carriageReturn) := fun hmem =>
    hfree ((List.takeWhile_prefix _).mem hmem)
  have hc : carriageReturn ∉ line.takeWhile (· != carriageReturn) := fun hmem => by
    simpa using List.mem_takeWhile_imp hmem
  cases hdrop : line.dropWhile (· != carriageReturn) with
  | nil =>
    rw [hdrop, List.append_nil] at hsplit
    rw [hsplit] at hn hc ⊢
    rcases hafter with rfl | ⟨t, rfl⟩
    · rw [List.append_nil, textLinesOf_of_notMem hn hc hne]
      rfl
    · rw [textLinesOf_append hn hc (textLinesOf_newline t)]
      rfl
  | cons c r =>
    obtain rfl : c = carriageReturn := by
      have hhead := List.head?_dropWhile_not (· != carriageReturn) line
      rw [hdrop] at hhead
      simpa using hhead
    obtain ⟨ls, hls⟩ := exists_textLinesOf_carriageReturn (r ++ after)
    rw [hdrop] at hsplit
    have hlines := textLinesOf_append hn hc hls
    rw [← List.cons_append, ← List.append_assoc, hsplit] at hlines
    rw [hlines]
    rfl

/-- The line of a number in the list of all lines of the text. -/
theorem getElem?_textLinesOf {l before line after : List UInt8} {i : Nat}
    (h : LineAt l i before line after) (hne : line ≠ []) :
    (textLinesOf l)[i + strays before]? = some (line.takeWhile (· != carriageReturn)) := by
  have hlength := length_textLinesOf h.begins
  rw [h.count] at hlength
  rw [h.split, textLinesOf_append_of_ended h.begins, ← hlength,
    List.getElem?_append_right (Nat.le_refl _), Nat.sub_self, ← List.head?_eq_getElem?]
  exact head?_textLinesOf h.free hne h.ends

/-! ## Windows -/

namespace Bytes

variable (b : Bytes)

theorem textLineEnd?_eq :
    b.textLineEnd? = b.toList.findIdx? (fun c => c == newline || c == carriageReturn) := by
  rw [textLineEnd?, findIdxFrom?_eq, List.drop_zero]
  simp

variable {b}

theorem notMem_of_textLineEnd? (h : b.textLineEnd? = none) :
    newline ∉ b.toList ∧ carriageReturn ∉ b.toList := by
  rw [textLineEnd?_eq] at h
  have hfree := List.findIdx?_eq_none_iff.1 h
  exact ⟨fun hmem => by simpa using hfree _ hmem, fun hmem => by simpa using hfree _ hmem⟩

/-- What ends the first line, and stands at no index before it. -/
theorem split_of_textLineEnd? {i : Nat} (h : b.textLineEnd? = some i) :
    ∃ c, (c = newline ∨ c = carriageReturn) ∧ b.get? i = some c ∧
      b.toList = b.toList.take i ++ c :: b.toList.drop (i + 1) ∧
        newline ∉ b.toList.take i ∧ carriageReturn ∉ b.toList.take i := by
  rw [textLineEnd?_eq] at h
  obtain ⟨hlt, hends, hfree⟩ := List.findIdx?_eq_some_iff_getElem.1 h
  have hmem : ∀ c ∈ b.toList.take i, c ≠ newline ∧ c ≠ carriageReturn := by
    intro c hc
    obtain ⟨j, hj, rfl⟩ := List.mem_take_iff_getElem.1 hc
    simpa using hfree j (by omega)
  refine ⟨b.toList[i], by simpa using hends, ?_, ?_, fun hc => (hmem _ hc).1 rfl,
    fun hc => (hmem _ hc).2 rfl⟩
  · rw [get?_eq, List.getElem?_eq_getElem hlt]
  · rw [← List.drop_eq_getElem_cons hlt, List.take_append_drop]

/-- The first line of a text is what is cut off it, and the other lines are those of the rest. -/
theorem textLinesOf_cutTextLine (hne : b.toList ≠ []) :
    textLinesOf b.toList = b.cutTextLine.1.toList :: textLinesOf b.cutTextLine.2.toList := by
  rw [cutTextLine]
  split
  · next hnone =>
    obtain ⟨hn, hc⟩ := notMem_of_textLineEnd? hnone
    rw [textLinesOf_of_notMem hn hc hne, toList_drop, ← length_toList, List.drop_length]
    rfl
  · next i hi =>
    obtain ⟨c, hends, hget, hsplit, hn, hc⟩ := split_of_textLineEnd? hi
    conv => lhs; rw [hsplit]
    simp only [hget, get?_eq b (i + 1), toList_take, toList_drop]
    rcases hends with rfl | rfl
    · have hpair : ¬(newline = carriageReturn) := carriageReturn_ne_newline.symm
      rw [textLinesOf_append hn hc (textLinesOf_newline _)]
      simp [hpair]
    · by_cases hnext : b.toList[i + 1]? = some newline
      · obtain ⟨hlt, hgetElem⟩ := List.getElem?_eq_some_iff.1 hnext
        rw [List.drop_eq_getElem_cons hlt, hgetElem,
          textLinesOf_append hn hc (textLinesOf_pair _)]
        simp [hnext]
      · have hhead : (b.toList.drop (i + 1)).head? ≠ some newline := by
          rwa [List.head?_drop]
        rw [textLinesOf_append hn hc (textLinesOf_stray hhead)]
        simp [hnext]

variable (b)

theorem textLinesOf_dropTextLines (n : Nat) :
    textLinesOf (b.dropTextLines n).toList = (textLinesOf b.toList).drop n := by
  induction n generalizing b with
  | zero => rfl
  | succ n ih =>
    rw [dropTextLines]
    by_cases hempty : b.isEmpty = true
    · rw [if_pos hempty, (isEmpty_eq_true b).1 hempty]
      rfl
    · rw [if_neg hempty, ih, textLinesOf_cutTextLine (mt (isEmpty_eq_true b).2 hempty),
        List.drop_succ_cons]

theorem map_takeTextLinesOnto (taken : List Bytes) (n : Nat) :
    (b.takeTextLinesOnto taken n).map toList =
      (taken.map toList).reverse ++ (textLinesOf b.toList).take n := by
  induction n generalizing b taken with
  | zero => simp [takeTextLinesOnto]
  | succ n ih =>
    rw [takeTextLinesOnto]
    by_cases hempty : b.isEmpty = true
    · rw [if_pos hempty, (isEmpty_eq_true b).1 hempty]
      simp
    · rw [if_neg hempty, ih, textLinesOf_cutTextLine (mt (isEmpty_eq_true b).2 hempty)]
      simp

end Bytes

/-- A window shows a part of the lines of a text. -/
theorem textWindow_eq (content : Bytes) (start stop : Int) :
    textWindow content start stop =
      (((textLinesOf content.toList).drop start.toNat).take (stop - start).toNat).map fun line =>
        String.ofList (Utf8.decode line) := by
  have hlines := Bytes.map_takeTextLinesOnto (content.dropTextLines start.toNat) []
    (stop - start).toNat
  rw [List.map_nil, List.reverse_nil, List.nil_append, Bytes.textLinesOf_dropTextLines] at hlines
  rw [← hlines, List.map_map]
  rfl

end AddonAtlas
