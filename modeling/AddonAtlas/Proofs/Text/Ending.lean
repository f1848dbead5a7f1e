import AddonAtlas.Text.Character
import Mathlib.Data.List.TakeWhile

/-!
# Ends of lists

A list is what `dropEndWhile` leaves of it and what is taken off its end. If all that stands in
front of an end is kept, the end is what is taken off (`dropEndWhile_append`). A list that is
trimmed at both ends has nothing left there to take off (`head?_trim`, `getLast?_trim`), and is not
changed by what is put around it to be taken off (`trim_append_of_pos`).
-/

namespace AddonAtlas.Text

variable {α : Type} {p : α → Bool}

theorem dropEndWhile_append_reverse (p : α → Bool) (l : List α) :
    dropEndWhile p l ++ (l.reverse.takeWhile p).reverse = l := by
  rw [dropEndWhile, ← List.reverse_append, List.takeWhile_append_dropWhile, List.reverse_reverse]

theorem mem_of_mem_dropEndWhile {l : List α} {x : α} (h : x ∈ dropEndWhile p l) : x ∈ l := by
  rw [dropEndWhile, List.mem_reverse] at h
  exact List.mem_reverse.1 ((List.dropWhile_sublist p).mem h)

theorem dropEndWhile_append_of_pos {l e : List α} (he : ∀ x ∈ e, p x) :
    dropEndWhile p (l ++ e) = dropEndWhile p l := by
  rw [dropEndWhile, List.reverse_append, List.dropWhile_append_of_pos (by simpa using he)]
  rfl

theorem dropEndWhile_append {l e : List α} (hl : ∀ x ∈ l, p x = false) (he : ∀ x ∈ e, p x) :
    dropEndWhile p (l ++ e) = l := by
  have hkept : l.reverse.dropWhile p = l.reverse := by
    rw [List.dropWhile_eq_self_iff]
    intro hpos
    rw [hl _ (List.mem_reverse.1 (List.getElem_mem hpos))]
    exact Bool.false_ne_true
  rw [dropEndWhile_append_of_pos he, dropEndWhile, hkept, List.reverse_reverse]

theorem dropEndWhile_eq_self {l : List α} (h : ∀ x ∈ l.getLast?, p x = false) :
    dropEndWhile p l = l := by
  rw [dropEndWhile]
  cases hl : l.reverse with
  | nil =>
    rw [List.reverse_eq_nil_iff.1 hl]
    rfl
  | cons x t =>
    have hx : p x = false := h x (by rw [← List.head?_reverse, hl]; rfl)
    rw [List.dropWhile_cons_of_neg (by simp [hx]), ← hl, List.reverse_reverse]

/-! ## Both ends -/

/-- A list is what is left of it when it is trimmed, between what is taken off its ends. -/
theorem exists_eq_append_trim (p : α → Bool) (l : List α) :
    ∃ before after, l = before ++ (trim p l ++ after) ∧ (∀ x ∈ before, p x = true) ∧
      ∀ x ∈ after, p x = true := by
  refine ⟨l.takeWhile p, ((l.dropWhile p).reverse.takeWhile p).reverse, ?_,
    fun x hx => List.mem_takeWhile_imp hx,
    fun x hx => List.mem_takeWhile_imp (List.mem_reverse.1 hx)⟩
  rw [trim, dropEndWhile_append_reverse, List.takeWhile_append_dropWhile]

theorem trim_append_of_pos {before after : List α} (hbefore : ∀ x ∈ before, p x = true) (l : List α)
    (hafter : ∀ x ∈ after, p x = true) : trim p (before ++ (l ++ after)) = trim p l := by
  rw [trim, List.dropWhile_append_of_pos hbefore, List.dropWhile_append]
  split
  · next h => rw [trim, List.isEmpty_iff.1 h, List.dropWhile_eq_nil_iff.2 hafter]
  · rw [dropEndWhile_append_of_pos hafter, trim]

theorem trim_eq_self {l : List α} (hhead : ∀ x ∈ l.head?, p x = false)
    (hlast : ∀ x ∈ l.getLast?, p x = false) : trim p l = l := by
  have hfront : l.dropWhile p = l := by
    cases l with
    | nil => rfl
    | cons x t => exact List.dropWhile_cons_of_neg (by simp [hhead x rfl])
  rw [trim, hfront, dropEndWhile_eq_self hlast]

theorem head?_trim (l : List α) : ∀ x ∈ (trim p l).head?, p x = false := by
  intro x hx
  have hfront : (l.dropWhile p).head? = some x := by
    rw [← dropEndWhile_append_reverse p (l.dropWhile p), List.head?_append, ← trim, hx]
    rfl
  have hstop := List.head?_dropWhile_not p l
  rwa [hfront] at hstop

theorem getLast?_trim (l : List α) : ∀ x ∈ (trim p l).getLast?, p x = false := by
  intro x hx
  rw [trim, dropEndWhile, List.getLast?_reverse] at hx
  have hstop := List.head?_dropWhile_not p (l.dropWhile p).reverse
  rwa [hx] at hstop

end AddonAtlas.Text
