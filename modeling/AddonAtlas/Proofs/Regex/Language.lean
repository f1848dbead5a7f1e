import AddonAtlas.Proofs.Regex.Meaning

/-!
# What expressions take, as lists

`Regex.Takes r P` : an expression without captures and anchors takes exactly the parts of a word
that satisfy `P`, wherever they stand. The predicates follow the expressions (`takes_seq`,
`takes_literal`, …). Of the part between two indices only so much is said as a reader needs who
goes through the word from its start : what is left at the first index is the part, and then
what is left at the second (`Part`).
-/

namespace AddonAtlas.Regex

variable {α : Type}

/-- The part of a list between two indices. -/
structure Part (l : List α) (i j : Nat) (m : List α) : Prop where
  left : l.drop i = m ++ l.drop j
  stop : j = i + m.length

namespace Part

variable {l m m' : List α} {i j k : Nat}

theorem nil (l : List α) (i : Nat) : Part l i i [] := ⟨rfl, rfl⟩

theorem append (h : Part l i j m) (h' : Part l j k m') : Part l i k (m ++ m') := by
  refine ⟨by rw [h.left, h'.left, List.append_assoc], ?_⟩
  rw [h'.stop, h.stop, List.length_append]
  omega

/-- The part at an index is the beginning of what is left there. -/
theorem of_drop {t : List α} (h : l.drop i = m ++ t) : Part l i (i + m.length) m := by
  refine ⟨?_, rfl⟩
  rw [h, ← List.drop_drop, h, List.drop_left]

/-- A part can be cut in two. -/
theorem exists_of_append (h : Part l i k (m ++ m')) : ∃ j, Part l i j m ∧ Part l j k m' := by
  have hleft := h.left
  rw [List.append_assoc] at hleft
  refine ⟨i + m.length, of_drop hleft, ?_, ?_⟩
  · rw [← List.drop_drop, hleft, List.drop_left]
  · rw [h.stop, List.length_append]
    omega

theorem getElem? (h : Part l i j m) {n : Nat} (hn : n < m.length) : l[i + n]? = m[n]? := by
  rw [← List.getElem?_drop, h.left, List.getElem?_append_left hn]

theorem singleton {x : α} (h : l[i]? = some x) : Part l i (i + 1) [x] := by
  obtain ⟨hi, rfl⟩ := List.getElem?_eq_some_iff.1 h
  exact ⟨by rw [List.drop_eq_getElem_cons hi]; rfl, rfl⟩

theorem getElem?_singleton {x : α} (h : Part l i j [x]) : l[i]? = some x :=
  h.getElem? (n := 0) Nat.zero_lt_one

end Part

variable [BEq α]

/-- An expression takes exactly the parts of a word that satisfy a predicate, and captures
nothing. -/
def Takes (r : Regex α) (P : List α → Prop) : Prop :=
  ∀ l i j caps caps', Runs (.ofList l) r i caps j caps' ↔ caps' = caps ∧ ∃ m, P m ∧ Part l i j m

theorem Takes.congr {r : Regex α} {P Q : List α → Prop} (h : Takes r P) (hPQ : ∀ m, P m ↔ Q m) :
    Takes r Q := fun l i j caps caps' => by
  rw [h]
  simp only [hPQ]

/-- What an expression takes is determined. -/
theorem Takes.unique {r : Regex α} {P Q : List α → Prop} (hP : Takes r P) (hQ : Takes r Q)
    (m : List α) : P m ↔ Q m := by
  have mono : ∀ {P Q : List α → Prop}, Takes r P → Takes r Q → P m → Q m := by
    intro P Q hP hQ hm
    have hpart : Part m 0 m.length m := ⟨by simp, by simp⟩
    obtain ⟨-, m', hm', hpart'⟩ := (hQ ..).1 ((hP m 0 m.length [] []).2 ⟨rfl, m, hm, hpart⟩)
    have hleft := hpart'.left
    rw [List.drop_length, List.append_nil] at hleft
    obtain rfl : m = m' := hleft
    exact hm'
  exact ⟨mono hP hQ, mono hQ hP⟩

theorem takes_empty : (empty : Regex α).Takes (· = []) := by
  intro l i j caps caps'
  constructor
  · rintro ⟨⟩
    exact ⟨rfl, [], rfl, .nil l i⟩
  · rintro ⟨rfl, m, rfl, h⟩
    obtain rfl : j = i := h.stop
    exact .empty

theorem takes_one (c : SymbolClass α) : Takes (.one c) fun m => ∃ x, m = [x] ∧ c.accepts x := by
  intro l i j caps caps'
  constructor
  · rintro ⟨⟩
    next x hc hx => exact ⟨rfl, [x], ⟨x, rfl, hc⟩, .singleton hx⟩
  · rintro ⟨rfl, m, ⟨x, rfl, hc⟩, h⟩
    obtain rfl : j = i + 1 := h.stop
    exact .one h.getElem?_singleton hc

theorem takes_many (c : SymbolClass α) : Takes (.many c) fun m => ∀ x ∈ m, c.accepts x := by
  intro l i j caps caps'
  constructor
  · rintro ⟨⟩
    next hij h =>
    refine ⟨rfl, (l.drop i).take (j - i), fun x hx => ?_, ?_, ?_⟩
    · obtain ⟨n, hn, rfl⟩ := List.mem_iff_getElem.1 hx
      rw [List.length_take] at hn
      obtain ⟨y, hy, hc⟩ := h (i + n) (Nat.le_add_right i n) (by omega)
      have : (l.drop i)[n]? = some y := (List.getElem?_drop ..).trans hy
      rw [List.getElem_take]
      rwa [(List.getElem?_eq_some_iff.1 this).2]
    · rw [← Nat.add_sub_cancel' hij, ← List.drop_drop, Nat.add_sub_cancel_left,
        List.take_append_drop]
    · have hle : j - i ≤ (l.drop i).length := by
        rcases Nat.eq_or_lt_of_le hij with rfl | hlt
        · omega
        · obtain ⟨y, hy, -⟩ := h (j - 1) (by omega) (by omega)
          have := (List.getElem?_eq_some_iff.1 hy).1
          rw [List.length_drop]
          omega
      rw [List.length_take_of_le hle]
      omega
  · rintro ⟨rfl, m, hm, h⟩
    have hstop := h.stop
    refine .many (by omega) fun n hin hnj => ?_
    have hlt : n - i < m.length := by omega
    have hget := h.getElem? hlt
    rw [Nat.add_sub_cancel' hin, List.getElem?_eq_getElem hlt] at hget
    exact ⟨m[n - i], hget, hm _ (List.getElem_mem hlt)⟩

theorem takes_seq {r s : Regex α} {P Q : List α → Prop} (hr : Takes r P) (hs : Takes s Q) :
    Takes (.seq r s) fun m => ∃ a b, m = a ++ b ∧ P a ∧ Q b := by
  intro l i j caps caps'
  constructor
  · rintro ⟨⟩
    next k caps₁ h₁ h₂ =>
    obtain ⟨rfl, a, ha, hik⟩ := (hr ..).1 h₁
    obtain ⟨rfl, b, hb, hkj⟩ := (hs ..).1 h₂
    exact ⟨rfl, a ++ b, ⟨a, b, rfl, ha, hb⟩, hik.append hkj⟩
  · rintro ⟨rfl, m, ⟨a, b, rfl, ha, hb⟩, h⟩
    obtain ⟨k, hik, hkj⟩ := h.exists_of_append
    exact .seq ((hr ..).2 ⟨rfl, a, ha, hik⟩) ((hs ..).2 ⟨rfl, b, hb, hkj⟩)

theorem takes_alt {r s : Regex α} {P Q : List α → Prop} (hr : Takes r P) (hs : Takes s Q) :
    Takes (.alt r s) fun m => P m ∨ Q m := by
  intro l i j caps caps'
  constructor
  · rintro (_ | _ | _ | _ | _ | _ | h | h)
    · obtain ⟨rfl, m, hm, h⟩ := (hr ..).1 h
      exact ⟨rfl, m, .inl hm, h⟩
    · obtain ⟨rfl, m, hm, h⟩ := (hs ..).1 h
      exact ⟨rfl, m, .inr hm, h⟩
  · rintro ⟨rfl, m, hm | hm, h⟩
    · exact .altLeft ((hr ..).2 ⟨rfl, m, hm, h⟩)
    · exact .altRight ((hs ..).2 ⟨rfl, m, hm, h⟩)

section Texts

variable [LawfulBEq α]

theorem takes_only (x : α) : Takes (.one (.only x)) (· = [x]) :=
  (takes_one _).congr fun m => by simp [SymbolClass.accepts]

/-- A text takes itself. -/
theorem takes_literal (cs : List α) : Takes (literal cs) (· = cs) := by
  induction cs with
  | nil => exact takes_empty
  | cons c cs ih => exact (takes_seq (takes_only c) ih).congr fun m => by simp

/-- All symbols but one take any part without it. -/
theorem takes_anyBut (x : α) : Takes (.many (.noneOf [x])) (x ∉ ·) :=
  (takes_many _).congr fun m => by
    simp only [SymbolClass.accepts, List.contains_cons, List.contains_nil, Bool.or_false,
      Bool.not_eq_true', beq_eq_false_iff_ne, ne_eq]
    exact ⟨fun h hx => h x hx rfl, fun h y hy he => h (he ▸ hy)⟩

end Texts

/-! ## Anchors and captures -/

section Runs

variable {r s : Regex α} {l : List α} {i j : Nat} {caps caps' : Captures}

theorem runs_seq {w : Word α} : Runs w (.seq r s) i caps j caps' ↔
    ∃ k caps₁, Runs w r i caps k caps₁ ∧ Runs w s k caps₁ j caps' := by
  constructor
  · rintro ⟨⟩
    next k caps₁ h₁ h₂ => exact ⟨k, caps₁, h₁, h₂⟩
  · rintro ⟨k, caps₁, h₁, h₂⟩
    exact .seq h₁ h₂

theorem runs_group {w : Word α} {n : Nat} : Runs w (.group n r) i caps j caps' ↔
    ∃ caps₁, Runs w r i caps j caps₁ ∧ caps' = (n, i, j) :: caps₁ := by
  constructor
  · rintro ⟨⟩
    next caps₁ h => exact ⟨caps₁, h, rfl⟩
  · rintro ⟨caps₁, h, rfl⟩
    exact .group h

theorem runs_atStart {w : Word α} :
    Runs w .atStart i caps j caps' ↔ i = 0 ∧ j = 0 ∧ caps' = caps := by
  constructor
  · rintro ⟨⟩
    exact ⟨rfl, rfl, rfl⟩
  · rintro ⟨rfl, rfl, rfl⟩
    exact .atStart

theorem runs_atEnd {w : Word α} :
    Runs w .atEnd i caps j caps' ↔ i = w.size ∧ j = w.size ∧ caps' = caps := by
  constructor
  · rintro ⟨⟩
    exact ⟨rfl, rfl, rfl⟩
  · rintro ⟨rfl, rfl, rfl⟩
    exact .atEnd

/-- A reference back takes once more what its group took. -/
theorem runs_back [LawfulBEq α] {n a b : Nat} {m : List α} (hcap : caps.find? n = some (a, b))
    (hm : Part l a b m) :
    Runs (.ofList l) (.back n) i caps j caps' ↔ caps' = caps ∧ Part l i j m := by
  have hlength : b - a = m.length := by
    have := hm.stop
    omega
  constructor
  · rintro ⟨⟩
    next a' b' h hcap' =>
    obtain ⟨rfl, rfl⟩ : a = a' ∧ b = b' := by simpa using hcap.symm.trans hcap'
    have hget : ∀ d (hd : d < m.length), l[i + d]? = some m[d] := fun d hd => by
      obtain ⟨x, y, hx, hy, hxy⟩ := h d (hlength ▸ hd)
      obtain rfl := eq_of_beq hxy
      have := (hm.getElem? hd).symm.trans hx
      rw [List.getElem?_eq_getElem hd] at this
      rw [Option.some.inj this]
      exact hy
    have hprefix : m <+: l.drop i := List.prefix_iff_getElem?.2 fun d hd => by
      rw [List.getElem?_drop]
      exact hget d hd
    obtain ⟨t, ht⟩ := hprefix
    rw [hlength]
    exact ⟨rfl, .of_drop ht.symm⟩
  · rintro ⟨rfl, h⟩
    obtain rfl : j = i + (b - a) := hlength ▸ h.stop
    refine .back hcap fun d hd => ?_
    have hd : d < m.length := hlength ▸ hd
    refine ⟨m[d], m[d], ?_, ?_, beq_self_eq_true _⟩
    · exact (hm.getElem? hd).trans (List.getElem?_eq_getElem hd)
    · exact (h.getElem? hd).trans (List.getElem?_eq_getElem hd)

end Runs

end AddonAtlas.Regex
