import AddonAtlas.Proofs.Number.Numeral
import AddonAtlas.Value
import Mathlib.Data.List.Range
import Mathlib.Data.List.Perm.Subperm

/-!
# Texts of values

Whatever is given has a text that is not empty (`Value.asText_ne_empty`). A collection that stands
inside of itself is shown by dots, so that collections are never too deep inside of each other to be
shown (`Value.numberShown_ne_empty`).
-/

namespace AddonAtlas

open AddonAtlas.Number AddonAtlas.Text

theorem append_ne_empty_left {s : String} (h : s ≠ "") (t : String) : s ++ t ≠ "" := fun hst =>
  h (String.append_eq_empty_iff.1 hst).1

theorem append_ne_empty_right (s : String) {t : String} (h : t ≠ "") : s ++ t ≠ "" := fun hst =>
  h (String.append_eq_empty_iff.1 hst).2

theorem ofList_ne_empty {cs : List Char} (h : cs ≠ []) : String.ofList cs ≠ "" := by
  rwa [ne_eq, ← String.toList_eq_nil_iff, String.toList_ofList]

/-! ## Texts of single values -/

theorem Number.Binary64.Layout.render_ne_empty (l : Binary64.Layout) (d : Decimal) :
    l.render d ≠ "" := by
  refine ofList_ne_empty ?_
  dsimp only
  repeat' split
  all_goals
    simp only [ne_eq, List.append_eq_nil_iff, List.cons_ne_nil, and_false, not_false_eq_true]

theorem Number.Binary64.text_ne_empty (x : Binary64) : x.text ≠ "" := by
  cases x with
  | nan => decide
  | infinite s => cases s <;> decide
  | finite s m e =>
    simp only [text]
    have hbody : (if m = 0 then "0.0" else layout.render (shortest m e)) ≠ "" := by
      split
      · decide
      · exact layout.render_ne_empty _
    split
    · exact append_ne_empty_left (by decide) _
    · exact hbody

theorem toString_int_ne_empty (n : Int) : toString n ≠ "" := by
  cases n with
  | ofNat m =>
    intro h
    refine toString_ne_nil m ?_
    rw [String.toList_eq_nil_iff]
    exact h
  | negSucc m => exact append_ne_empty_left (by decide) _

theorem Calendar.Date.iso_ne_empty (d : Calendar.Date) : d.iso ≠ "" :=
  append_ne_empty_left (append_ne_empty_right _ (by decide)) _

theorem Calendar.Moment.iso_ne_empty (t : Calendar.Moment) : t.iso ≠ "" := by
  simp only [iso]
  refine append_ne_empty_left (append_ne_empty_left ?_ _) _
  exact append_ne_empty_left (append_ne_empty_right _ (by decide)) _

namespace Value

variable {within : Collections}

theorem shownBy_ne_empty {one : Nat → String} {v : Value} (h : ∀ n, v = ref n → one n ≠ "") :
    v.shownBy one ≠ "" := by
  unfold shownBy
  split
  · decide
  · split <;> decide
  · exact toString_int_ne_empty _
  · exact Binary64.text_ne_empty _
  · exact ofList_ne_empty (List.cons_ne_nil _ _)
  · exact ofList_ne_empty (List.cons_ne_nil _ _)
  · exact append_ne_empty_right _ (by decide)
  · exact append_ne_empty_right _ (by decide)
  · exact append_ne_empty_right _ (by decide)
  · exact append_ne_empty_right _ (by decide)
  · split
    · decide
    · exact append_ne_empty_right _ (by decide)
  · exact append_ne_empty_right _ (by decide)
  · exact h _ rfl

theorem dots_ne_empty (v : Value) : v.dots ≠ "" := by
  unfold dots
  split <;> decide

/-- The numbers around a collection are different ones, so there are no more of them than there are
collections. -/
theorem numberShown_ne_empty {depth : Nat} {around : List Nat} (hnodup : around.Nodup)
    (hbound : ∀ m ∈ around, m < within.size) (hdepth : depth + around.length = within.size + 1)
    (n : Nat) : numberShown within depth around n ≠ "" := by
  induction depth generalizing around n with
  | zero =>
    have hle := (List.subperm_of_subset hnodup fun m hm => List.mem_range.2 (hbound m hm)).length_le
    rw [List.length_range] at hle
    omega
  | succ depth ih =>
    simp only [numberShown]
    split
    · exact dots_ne_empty _
    · next hn =>
      refine shownBy_ne_empty fun m hm => ih (List.nodup_cons.2 ⟨hn, hnodup⟩) ?_ ?_ m
      · refine List.forall_mem_cons.2 ⟨?_, hbound⟩
        by_contra hlt
        rw [Array.getD_eq_getD_getElem?, Array.getElem?_eq_none (Nat.le_of_not_lt hlt)] at hm
        cases hm
      · rw [List.length_cons]
        omega

theorem shown_ne_empty (v : Value) : v.shown within ≠ "" :=
  shownBy_ne_empty fun n _ => numberShown_ne_empty List.nodup_nil (by simp) (by simp) n

/-- What is given has a text that is not empty, if it has one. -/
theorem asText_ne_empty {v : Value} {s : String} (hgiven : v.isGiven within = true)
    (h : v.asText within = .ok s) : s ≠ "" := by
  have nested :
      (if !v.isShallow within then .error (.tooDeep " while getting the repr of an object")
      else if v.isWritable within then .ok (v.shown within) else .error tooLong) =
        (.ok s : Except Failure String) → s ≠ "" := by
    intro h
    split at h
    · cases h
    · split at h <;> cases h
      exact shown_ne_empty v
  cases v with
  | text t =>
    obtain rfl : t = s := Except.ok.inj h
    simpa [isGiven, resolve] using hgiven
  | date d =>
    obtain rfl : d.iso = s := Except.ok.inj h
    exact d.iso_ne_empty
  | moment t =>
    obtain rfl : t.iso = s := Except.ok.inj h
    exact t.iso_ne_empty
  | _ => exact nested h

end Value

end AddonAtlas
