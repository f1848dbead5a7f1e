import AddonAtlas.Proofs.Regex.Language

/-!
# Lines that declare a value

The grammar of declaration lines over any symbols : `LineGrammar.Declares` says that a line
declares a value, with nothing said of the value itself. `LineGrammar.regex` is the expression
that reads such lines and asks of the value what another expression takes. It runs on the whole
line exactly if the line declares a value that this expression takes (`exists_runs_regex`), and
group 3 is where the value stands (`declares_of_runs`).

A grammar in which blanks, attributes, quotes and line ends do not get in each other's way is
unambiguous : a line declares at most one value (`Declares.unique`). The last quote of the line is
the closing one, so quotes may stand in the value.
-/

namespace AddonAtlas

/-- The symbols of declaration lines. -/
structure LineGrammar (α : Type) where
  blank : SymbolClass α
  attributes : List (List α)
  equals : α
  quote : SymbolClass α
  lineEnd : SymbolClass α

namespace LineGrammar

/-! ## Runs of symbols -/

section Symbols

variable {α : Type} {p : α → Bool} {a b s t : List α} {x y : α}

/-- Where a run of symbols of a kind ends is determined. -/
theorem eq_of_append_cons (ha : ∀ z ∈ a, p z)
    (hb : ∀ z ∈ b, p z) (hx : p x = false) (hy : p y = false) (h : a ++ x :: s = b ++ y :: t) :
    a = b ∧ x :: s = y :: t := by
  have first : ∀ {c u : List α} {z : α}, (∀ w ∈ c, p w) → p z = false →
      (c ++ z :: u).takeWhile p = c ∧ (c ++ z :: u).dropWhile p = z :: u := by
    intro c u z hc hz
    rw [List.takeWhile_append_of_pos hc, List.dropWhile_append_of_pos hc]
    simp [hz]
  obtain ⟨ha₁, ha₂⟩ := first (u := s) ha hx
  obtain ⟨hb₁, hb₂⟩ := first (u := t) hb hy
  exact ⟨by rw [← ha₁, h, hb₁], by rw [← ha₂, h, hb₂]⟩

/-- Where the last run of symbols of a kind begins is determined. -/
theorem eq_of_append_cons_end (hs : ∀ z ∈ s, p z)
    (ht : ∀ z ∈ t, p z) (hx : p x = false) (hy : p y = false) (h : a ++ x :: s = b ++ y :: t) :
    a = b ∧ x :: s = y :: t := by
  have h' := congrArg List.reverse h
  simp only [List.reverse_append, List.reverse_cons, List.append_assoc, List.cons_append,
    List.nil_append] at h'
  obtain ⟨hst, hab⟩ := eq_of_append_cons (by simpa using hs) (by simpa using ht) hx hy h'
  obtain ⟨hxy, hab⟩ := List.cons.inj hab
  exact ⟨List.reverse_inj.1 hab, by rw [hxy, List.reverse_inj.1 hst]⟩

end Symbols

/-! ## Lines -/

variable {α : Type} [BEq α] (g : LineGrammar α)

/-- A line declares a value : blanks, an attribute, the equals sign between blanks, the value
between two equal quotes, and what may end a line. -/
def Declares (line value : List α) : Prop :=
  ∃ b₁ a b₂ b₃ q e,
    line = b₁ ++ (a ++ (b₂ ++ g.equals :: (b₃ ++ q :: (value ++ q :: e)))) ∧
      (∀ x ∈ b₁, g.blank.accepts x) ∧ a ∈ g.attributes ∧ (∀ x ∈ b₂, g.blank.accepts x) ∧
      (∀ x ∈ b₃, g.blank.accepts x) ∧ g.quote.accepts q ∧ ∀ x ∈ e, g.lineEnd.accepts x

/-- The expression of lines whose value another expression takes ; group 3 takes the value. -/
def regex (attr value : Regex α) : Regex α :=
  .seq .atStart <| .seq (.many g.blank) <| .seq (.group 1 attr) <|
    .seq (.many g.blank) <| .seq (.one (.only g.equals)) <| .seq (.many g.blank) <|
    .seq (.group 2 (.one g.quote)) <| .seq (.group 3 value) <| .seq (.back 2) <|
    .seq (.many g.lineEnd) .atEnd

/-! ## The expression -/

section Expression

open Regex

variable [LawfulBEq α] {g} {attr value : Regex α} {V : List α → Prop} {l : List α}

/-- Where the expression runs, the line declares what group 3 took. -/
theorem declares_of_runs (ha : Takes attr (· ∈ g.attributes)) (hv : Takes value V) {j : Nat}
    {caps : Captures} (h : Runs (.ofList l) (g.regex attr value) 0 [] j caps) :
    ∃ v start stop, caps.find? 3 = some (start, stop) ∧ Part l start stop v ∧ V v ∧
      g.Declares l v := by
  obtain ⟨_, _, h₀, h⟩ := runs_seq.1 h
  obtain ⟨-, rfl, rfl⟩ := runs_atStart.1 h₀
  obtain ⟨i₁, _, h₁, h⟩ := runs_seq.1 h
  obtain ⟨rfl, b₁, hb₁, p₁⟩ := (takes_many ..).1 h₁
  obtain ⟨i₂, _, h₂, h⟩ := runs_seq.1 h
  obtain ⟨_, g₂, rfl⟩ := runs_group.1 h₂
  obtain ⟨rfl, a, ha, p₂⟩ := (ha ..).1 g₂
  obtain ⟨i₃, _, h₃, h⟩ := runs_seq.1 h
  obtain ⟨rfl, b₂, hb₂, p₃⟩ := (takes_many ..).1 h₃
  obtain ⟨i₄, _, h₄, h⟩ := runs_seq.1 h
  obtain ⟨rfl, _, rfl, p₄⟩ := (takes_only ..).1 h₄
  obtain ⟨i₅, _, h₅, h⟩ := runs_seq.1 h
  obtain ⟨rfl, b₃, hb₃, p₅⟩ := (takes_many ..).1 h₅
  obtain ⟨i₆, _, h₆, h⟩ := runs_seq.1 h
  obtain ⟨_, g₆, rfl⟩ := runs_group.1 h₆
  obtain ⟨rfl, _, ⟨q, rfl, hq⟩, p₆⟩ := (takes_one ..).1 g₆
  obtain ⟨i₇, _, h₇, h⟩ := runs_seq.1 h
  obtain ⟨_, g₇, rfl⟩ := runs_group.1 h₇
  obtain ⟨rfl, v, hv, p₇⟩ := (hv ..).1 g₇
  obtain ⟨i₈, _, h₈, h⟩ := runs_seq.1 h
  obtain ⟨rfl, p₈⟩ := (runs_back (a := i₅) (b := i₆) rfl p₆).1 h₈
  obtain ⟨i₉, _, h₉, h⟩ := runs_seq.1 h
  obtain ⟨rfl, e, he, p₉⟩ := (takes_many ..).1 h₉
  obtain ⟨rfl, -, rfl⟩ := runs_atEnd.1 h
  refine ⟨v, i₆, i₇, rfl, p₇, hv, b₁, a, b₂, b₃, q, e, ?_, hb₁, ha, hb₂, hb₃, hq, he⟩
  have hend : l.drop (Word.ofList l).size = [] := List.drop_length
  have hline := p₁.left
  rw [p₂.left, p₃.left, p₄.left, p₅.left, p₆.left, p₇.left, p₈.left, p₉.left, hend] at hline
  simpa using hline

/-- On a line that declares a value which is taken, the expression runs. -/
theorem exists_runs_regex (ha : Takes attr (· ∈ g.attributes)) (hv : Takes value V)
    {v : List α} (h : g.Declares l v) (hV : V v) :
    ∃ j caps, Runs (.ofList l) (g.regex attr value) 0 [] j caps := by
  obtain ⟨b₁, a, b₂, b₃, q, e, hline, hb₁, hattr, hb₂, hb₃, hq, he⟩ := h
  have whole : Part l 0 l.length
      (b₁ ++ (a ++ (b₂ ++ ([g.equals] ++ (b₃ ++ ([q] ++ (v ++ ([q] ++ e)))))))) :=
    ⟨by simpa using hline, by simp [hline]⟩
  obtain ⟨i₁, p₁, p⟩ := whole.exists_of_append
  obtain ⟨i₂, p₂, p⟩ := p.exists_of_append
  obtain ⟨i₃, p₃, p⟩ := p.exists_of_append
  obtain ⟨i₄, p₄, p⟩ := p.exists_of_append
  obtain ⟨i₅, p₅, p⟩ := p.exists_of_append
  obtain ⟨i₆, p₆, p⟩ := p.exists_of_append
  obtain ⟨i₇, p₇, p⟩ := p.exists_of_append
  obtain ⟨i₈, p₈, p₉⟩ := p.exists_of_append
  exact ⟨_, _, .seq .atStart <|
    .seq ((takes_many ..).2 ⟨rfl, b₁, hb₁, p₁⟩) <|
    .seq (.group ((ha ..).2 ⟨rfl, a, hattr, p₂⟩)) <|
    .seq ((takes_many ..).2 ⟨rfl, b₂, hb₂, p₃⟩) <|
    .seq ((takes_only ..).2 ⟨rfl, _, rfl, p₄⟩) <|
    .seq ((takes_many ..).2 ⟨rfl, b₃, hb₃, p₅⟩) <|
    .seq (.group ((takes_one ..).2 ⟨rfl, _, ⟨q, rfl, hq⟩, p₆⟩)) <|
    .seq (.group ((hv ..).2 ⟨rfl, v, hV, p₇⟩)) <|
    .seq ((runs_back rfl p₆).2 ⟨rfl, p₈⟩) <|
    .seq ((takes_many ..).2 ⟨rfl, e, he, p₉⟩) .atEnd⟩

end Expression

/-! ## One value a line -/

/-- Nothing of a line can be read in two ways. -/
structure Unambiguous : Prop where
  attributes : ∀ a ∈ g.attributes, ∃ x t, a = x :: t ∧ g.blank.accepts x = false
  prefixFree : ∀ a ∈ g.attributes, ∀ b ∈ g.attributes, a <+: b → a = b
  equals : g.blank.accepts g.equals = false
  quote_blank : ∀ q, g.quote.accepts q → g.blank.accepts q = false
  quote_lineEnd : ∀ q, g.quote.accepts q → g.lineEnd.accepts q = false

variable {g}

/-- A line declares at most one value. -/
theorem Declares.unique (hg : g.Unambiguous) {l v w : List α} (hv : g.Declares l v)
    (hw : g.Declares l w) : v = w := by
  obtain ⟨b₁, a, b₂, b₃, q, e, rfl, hb₁, ha, hb₂, hb₃, hq, he⟩ := hv
  obtain ⟨c₁, a', c₂, c₃, q', e', h, hc₁, ha', hc₂, hc₃, hq', he'⟩ := hw
  obtain ⟨x, t, rfl, hx⟩ := hg.attributes a ha
  obtain ⟨x', t', rfl, hx'⟩ := hg.attributes a' ha'
  obtain ⟨-, h⟩ := eq_of_append_cons hb₁ hc₁ hx hx' h
  have hattr : x :: t = x' :: t' := by
    rcases List.append_eq_append_iff.1 (show (x :: t) ++ _ = (x' :: t') ++ _ from h) with
      ⟨r, hr, -⟩ | ⟨r, hr, -⟩
    · exact hg.prefixFree _ ha _ ha' ⟨r, hr.symm⟩
    · exact (hg.prefixFree _ ha' _ ha ⟨r, hr.symm⟩).symm
  have h : (x :: t) ++ (b₂ ++ _) = (x' :: t') ++ (c₂ ++ _) := h
  rw [hattr] at h
  have h := List.append_cancel_left h
  obtain ⟨-, h⟩ := eq_of_append_cons hb₂ hc₂ hg.equals hg.equals h
  obtain ⟨-, h⟩ := List.cons.inj h
  obtain ⟨-, h⟩ := eq_of_append_cons hb₃ hc₃ (hg.quote_blank q hq) (hg.quote_blank q' hq') h
  obtain ⟨-, h⟩ := List.cons.inj h
  exact (eq_of_append_cons_end he he' (hg.quote_lineEnd q hq) (hg.quote_lineEnd q' hq') h).1

/-- What may end a line may also be left out there. -/
theorem declares_append (hg : g.Unambiguous) {l r v : List α} (hr : ∀ x ∈ r, g.lineEnd.accepts x) :
    g.Declares (l ++ r) v ↔ g.Declares l v := by
  constructor
  · rintro ⟨b₁, a, b₂, b₃, q, e, h, hb₁, ha, hb₂, hb₃, hq, he⟩
    have hqr : q ∉ r := fun hmem => by
      have := hr q hmem
      simp [hg.quote_lineEnd q hq] at this
    obtain ⟨s, hs⟩ : ∃ s, s = b₁ ++ (a ++ (b₂ ++ g.equals :: (b₃ ++ q :: v))) := ⟨_, rfl⟩
    have h : l ++ r = s ++ q :: e := by simpa [hs] using h
    rcases List.append_eq_append_iff.1 h with ⟨d, -, hd⟩ | ⟨d, hl, hd⟩
    · exact absurd (hd ▸ List.mem_append_cons_self) hqr
    · cases d with
      | nil =>
        obtain rfl : q :: e = r := hd
        exact absurd List.mem_cons_self hqr
      | cons y d =>
        obtain ⟨rfl, rfl⟩ := List.cons.inj hd
        exact ⟨b₁, a, b₂, b₃, q, d, by simpa [hs] using hl, hb₁, ha, hb₂, hb₃, hq,
          fun x hx => he x (List.mem_append_left r hx)⟩
  · rintro ⟨b₁, a, b₂, b₃, q, e, rfl, hb₁, ha, hb₂, hb₃, hq, he⟩
    exact ⟨b₁, a, b₂, b₃, q, e ++ r, by simp, hb₁, ha, hb₂, hb₃, hq,
      List.forall_mem_append.2 ⟨he, hr⟩⟩

end LineGrammar

end AddonAtlas
