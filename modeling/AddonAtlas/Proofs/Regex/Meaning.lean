import AddonAtlas.Regex.Matcher

/-!
# The matcher and the meaning of expressions

`Regex.run` finds exactly the ways in which an expression runs : what it hands to its
continuation is a way (`run_sound`), and if the continuation has an answer on some way, an
answer is found (`run_complete`). So an expression is found to select a word exactly if it does
(`selects_eq_true`), and the captures of a match are those of a way (`exists_of_match?`).

Words are read through an index, and nothing in `Word` keeps `get?` from going on beyond the end.
`Word.Bounded` does ; all words of lists are bounded.
-/

namespace AddonAtlas

variable {α β : Type}

/-- A word has no symbols beyond its end. -/
def Word.Bounded (w : Word α) : Prop :=
  ∀ i x, w.get? i = some x → i < w.size

theorem Word.bounded_ofList (l : List α) : (Word.ofList l).Bounded := fun _ _ h =>
  (List.getElem?_eq_some_iff.1 h).1

theorem Word.ofArray_eq (a : Array α) : Word.ofArray a = Word.ofList a.toList := by
  simp [ofArray, ofList]

namespace Regex

variable [BEq α] {w : Word α}

/-! ## Repetition -/

theorem le_extent (c : SymbolClass α) (i : Nat) : i ≤ extent w c i := by
  fun_induction extent w c i <;> omega

/-- All symbols up to the extent of a class are in it. -/
theorem accepts_of_lt_extent {c : SymbolClass α} {i n : Nat} (hi : i ≤ n)
    (hn : n < extent w c i) : ∃ x, w.get? n = some x ∧ c.accepts x = true := by
  fun_induction extent w c i with
  | case1 i hlt x hx hc ih =>
    rcases Nat.eq_or_lt_of_le hi with rfl | hi
    · exact ⟨x, hx, hc⟩
    · exact ih hi hn
  | case2 | case3 | case4 => omega

/-- The extent of a class is not exceeded by symbols that are in it. -/
theorem le_extent_of_accepts (hw : w.Bounded) {c : SymbolClass α} {i j : Nat} (hij : i ≤ j)
    (h : ∀ n, i ≤ n → n < j → ∃ x, w.get? n = some x ∧ c.accepts x = true) :
    j ≤ extent w c i := by
  fun_induction extent w c i with
  | case1 i hi x hx hc ih =>
    rcases Nat.eq_or_lt_of_le hij with rfl | hlt
    · exact Nat.le_trans (Nat.le_succ i) (le_extent c (i + 1))
    · exact ih hlt fun n hin => h n (by omega)
  | case2 i hi x hx hc =>
    refine Nat.le_of_not_lt fun hlt => ?_
    obtain ⟨y, hy, hcy⟩ := h i (Nat.le_refl i) hlt
    rw [hx] at hy
    cases hy
    exact hc hcy
  | case3 i hi hx =>
    refine Nat.le_of_not_lt fun hlt => ?_
    obtain ⟨y, hy, -⟩ := h i (Nat.le_refl i) hlt
    rw [hx] at hy
    cases hy
  | case4 i hi =>
    refine Nat.le_of_not_lt fun hlt => ?_
    obtain ⟨y, hy, -⟩ := h i (Nat.le_refl i) hlt
    exact hi (hw i y hy)

theorem exists_of_tryDown {k : Nat → Option β} {low n : Nat} {a : β}
    (h : tryDown k low n = some a) : ∃ j, low ≤ j ∧ j ≤ low + n ∧ k j = some a := by
  induction n with
  | zero => exact ⟨low, Nat.le_refl low, Nat.le_refl low, h⟩
  | succ n ih =>
    cases hk : k (low + (n + 1)) with
    | some b =>
      simp only [tryDown, hk] at h
      exact ⟨low + (n + 1), by omega, by omega, hk.trans h⟩
    | none =>
      simp only [tryDown, hk] at h
      obtain ⟨j, hlow, hj, hkj⟩ := ih h
      exact ⟨j, hlow, by omega, hkj⟩

theorem isSome_tryDown {k : Nat → Option β} {low n j : Nat} (hlow : low ≤ j) (hj : j ≤ low + n)
    (h : (k j).isSome = true) : (tryDown k low n).isSome = true := by
  induction n with
  | zero =>
    obtain rfl : j = low := by omega
    exact h
  | succ n ih =>
    cases hk : k (low + (n + 1)) with
    | some b => simp [tryDown, hk]
    | none =>
      have hne : j ≠ low + (n + 1) := by
        rintro rfl
        simp [hk] at h
      simpa [tryDown, hk] using ih (by omega)

theorem sameSymbols_eq_true {a i n : Nat} :
    sameSymbols w a i n = true ↔
      ∀ d, d < n → ∃ x y, w.get? (a + d) = some x ∧ w.get? (i + d) = some y ∧ (x == y) = true := by
  induction n generalizing a i with
  | zero => simp [sameSymbols]
  | succ n ih =>
    constructor
    · intro h d hd
      unfold sameSymbols at h
      split at h
      · next x y hx hy =>
        obtain ⟨hxy, hrest⟩ := Bool.and_eq_true_iff.1 h
        cases d with
        | zero => exact ⟨x, y, hx, hy, hxy⟩
        | succ d =>
          have := ih.1 hrest d (by omega)
          rwa [show a + 1 + d = a + (d + 1) by omega,
            show i + 1 + d = i + (d + 1) by omega] at this
      · cases h
    · intro h
      obtain ⟨x, y, hx, hy, hxy⟩ := h 0 (Nat.succ_pos n)
      have hrest : sameSymbols w (a + 1) (i + 1) n = true := ih.2 fun d hd => by
        have := h (d + 1) (by omega)
        rwa [show a + (d + 1) = a + 1 + d by omega,
          show i + (d + 1) = i + 1 + d by omega] at this
      rw [Nat.add_zero] at hx hy
      simp [sameSymbols, hx, hy, hxy, hrest]

/-! ## Runs -/

/-- An answer of the matcher is the continuation's on one of the ways. -/
theorem run_sound {r : Regex α} {i : Nat} {caps : Captures} {k : Nat → Captures → Option β}
    {a : β} (h : run w r i caps k = some a) :
    ∃ j caps', Runs w r i caps j caps' ∧ k j caps' = some a := by
  induction r generalizing i caps k a with
  | empty => exact ⟨i, caps, .empty, h⟩
  | atStart =>
    by_cases hi : i = 0
    · subst hi
      exact ⟨0, caps, .atStart, by simpa [run] using h⟩
    · simp [run, hi] at h
  | atEnd =>
    by_cases hi : i = w.size
    · subst hi
      exact ⟨w.size, caps, .atEnd, by simpa [run] using h⟩
    · simp [run, hi] at h
  | one c =>
    simp only [run] at h
    split at h
    · next x hx =>
      split at h
      · next hc => exact ⟨i + 1, caps, .one hx hc, h⟩
      · cases h
    · cases h
  | many c =>
    obtain ⟨j, hij, hj, hk⟩ := exists_of_tryDown h
    have := le_extent (w := w) c i
    exact ⟨j, caps, .many hij fun n hin hnj => accepts_of_lt_extent hin (by omega), hk⟩
  | seq r s ihr ihs =>
    obtain ⟨j, caps₁, hr, hk⟩ := ihr h
    obtain ⟨j', caps₂, hs, hk'⟩ := ihs hk
    exact ⟨j', caps₂, .seq hr hs, hk'⟩
  | alt r s ihr ihs =>
    cases hr : run w r i caps k with
    | some b =>
      obtain ⟨j, caps', hruns, hk⟩ := ihr hr
      simp only [run, hr] at h
      exact ⟨j, caps', .altLeft hruns, hk.trans h⟩
    | none =>
      simp only [run, hr] at h
      obtain ⟨j, caps', hruns, hk⟩ := ihs h
      exact ⟨j, caps', .altRight hruns, hk⟩
  | group n r ih =>
    obtain ⟨j, caps', hr, hk⟩ := ih h
    exact ⟨j, _, .group hr, hk⟩
  | back n =>
    simp only [run] at h
    split at h
    · next a b hcap =>
      split at h
      · next hsame => exact ⟨_, caps, .back hcap (sameSymbols_eq_true.1 hsame), h⟩
      · cases h
    · cases h

/-- The matcher has an answer if the continuation has one on some way. -/
theorem run_complete (hw : w.Bounded) {r : Regex α} {i j : Nat} {caps caps' : Captures}
    (h : Runs w r i caps j caps') {k : Nat → Captures → Option β}
    (hk : (k j caps').isSome = true) : (run w r i caps k).isSome = true := by
  induction h generalizing k with
  | empty => exact hk
  | atStart => simpa [run] using hk
  | atEnd => simpa [run] using hk
  | one hx hc => simpa [run, hx, hc] using hk
  | many hij h =>
    have := le_extent_of_accepts hw hij h
    exact isSome_tryDown hij (by omega) hk
  | seq _ _ ihr ihs => exact ihr (ihs hk)
  | @altLeft r s i j caps caps₁ _ ih =>
    have := ih hk
    simp only [run]
    cases hr : run w r i caps k with
    | some b => rfl
    | none => simp [hr] at this
  | @altRight r s i j caps caps₁ _ ih =>
    simp only [run]
    cases hr : run w r i caps k with
    | some b => rfl
    | none => exact ih hk
  | group _ ih => exact ih hk
  | back hcap h => simpa [run, hcap, sameSymbols_eq_true.2 h] using hk

/-! ## Selection and matches -/

theorem selectsFrom_eq_true {r : Regex α} {i n : Nat} :
    selectsFrom r w i n = true ↔
      ∃ m, i ≤ m ∧ m < i + n ∧ (run w r m [] fun _ _ => some ()).isSome = true := by
  induction n generalizing i with
  | zero =>
    refine iff_of_false (by simp [selectsFrom]) ?_
    rintro ⟨m, hi, hm, -⟩
    omega
  | succ n ih =>
    rw [selectsFrom, Bool.or_eq_true, ih]
    constructor
    · rintro (h | ⟨m, hi, hm, h⟩)
      · exact ⟨i, Nat.le_refl i, by omega, h⟩
      · exact ⟨m, by omega, by omega, h⟩
    · rintro ⟨m, hi, hm, h⟩
      rcases Nat.eq_or_lt_of_le hi with rfl | hi
      · exact .inl h
      · exact .inr ⟨m, hi, by omega, h⟩

/-- The matcher finds that an expression selects a word exactly if it does. -/
theorem selects_eq_true (hw : w.Bounded) {r : Regex α} : selects r w = true ↔ Selects r w := by
  rw [selects, selectsFrom_eq_true]
  constructor
  · rintro ⟨m, -, hm, h⟩
    obtain ⟨a, ha⟩ := Option.isSome_iff_exists.1 h
    obtain ⟨j, caps, hruns, -⟩ := run_sound ha
    refine ⟨m, j, caps, ?_, hruns⟩
    split at hm <;> omega
  · rintro ⟨i, j, caps, hi, hruns⟩
    refine ⟨i, Nat.zero_le i, ?_, run_complete hw hruns rfl⟩
    split
    · next ha =>
      have := hruns.eq_zero_of_isAnchored ha
      omega
    · omega

theorem exists_of_match? {r : Regex α} {caps : Captures} (h : match? r w = some caps) :
    ∃ j, Runs w r 0 [] j caps := by
  obtain ⟨j, caps', hruns, hcaps⟩ := run_sound h
  cases hcaps
  exact ⟨j, hruns⟩

theorem isSome_match? (hw : w.Bounded) {r : Regex α} {j : Nat} {caps : Captures}
    (h : Runs w r 0 [] j caps) : (match? r w).isSome = true :=
  run_complete hw h rfl

end Regex

end AddonAtlas
