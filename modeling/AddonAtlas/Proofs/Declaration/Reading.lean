import AddonAtlas.Declaration.Pattern
import AddonAtlas.Proofs.Declaration.Grammar

/-!
# Values read from lines

`DeclarationPattern.matchValue` reads a value off a line exactly if the line, without the line
breaks at its end, declares it and the pattern admits it (`matchValue_eq_some`). What a pattern
admits is said over any symbols (`Admits`), once more for the rendition over bytes.
-/

namespace AddonAtlas.DeclarationPattern

open AddonAtlas.Text

/-- The grammar of lines of characters. -/
def grammar : LineGrammar Char :=
  ⟨blank, attributes.map String.toList, '=', quote, lineEnd⟩

theorem exists_of_mem_attributes {a : List Char} (h : a ∈ grammar.attributes) :
    ∃ as, a = '_' :: as := by
  simp only [grammar, attributes, List.map_cons, List.map_nil, List.mem_cons, List.not_mem_nil,
    or_false] at h
  rcases h with rfl | rfl
  · exact ⟨_, rfl⟩
  · exact ⟨_, rfl⟩

theorem unambiguous_grammar : grammar.Unambiguous where
  attributes := by simp [grammar, DeclarationPattern.attributes, blank, SymbolClass.accepts]
  prefixFree := by decide
  equals := rfl
  quote_blank := by simp [grammar, quote, blank, SymbolClass.accepts]
  quote_lineEnd := by simp [grammar, quote, lineEnd, SymbolClass.accepts]

/-- What a pattern asks of a value, over any symbols in which queries are spelled out : a free value
has no newline, and neither has what stands around a query. -/
def Admits {α : Type} (spell : String → List α) (newline : α) :
    DeclarationPattern → List α → Prop
  | free, v => newline ∉ v
  | exactly q, v => v = spell q
  | containing q, v => ∃ a b, v = a ++ (spell q ++ b) ∧ newline ∉ a ∧ newline ∉ b

theorem takes_attributeRegex : attributeRegex.Takes (· ∈ grammar.attributes) :=
  (Regex.takes_alt (Regex.takes_literal _) (Regex.takes_literal _)).congr fun m => by
    simp [grammar, attributes]

theorem takes_valueRegex (p : DeclarationPattern) :
    p.valueRegex.Takes (p.Admits String.toList '\n') := by
  cases p with
  | free => exact Regex.takes_anyBut _
  | exactly q => exact Regex.takes_literal _
  | containing q =>
    refine (Regex.takes_seq (Regex.takes_anyBut _)
      (Regex.takes_seq (Regex.takes_literal _) (Regex.takes_anyBut _))).congr fun m => ?_
    constructor
    · rintro ⟨a, _, rfl, ha, _, b, rfl, rfl, hb⟩
      exact ⟨a, b, rfl, ha, hb⟩
    · rintro ⟨a, b, rfl, ha, hb⟩
      exact ⟨a, _, rfl, ha, _, b, rfl, rfl, hb⟩

/-- A value is read off a line exactly if the line declares it and the pattern admits it. -/
theorem matchValue_eq_some {p : DeclarationPattern} {line v : String} :
    p.matchValue line = some v ↔
      grammar.Declares (dropEndWhile isLineBreak line.toList) v.toList ∧
        p.Admits String.toList '\n' v.toList := by
  obtain ⟨l, hl⟩ : ∃ l, l = dropEndWhile isLineBreak line.toList := ⟨_, rfl⟩
  have hread : ∀ caps, p.regex.match? (Word.ofList l) = some caps →
      ∃ w, grammar.Declares l w ∧ p.Admits String.toList '\n' w ∧
        p.matchValue line = some (String.ofList w) := by
    intro caps hcaps
    obtain ⟨j, hruns⟩ := Regex.exists_of_match? hcaps
    obtain ⟨w, start, stop, hfind, hpart, hw, hdeclares⟩ :=
      LineGrammar.declares_of_runs takes_attributeRegex p.takes_valueRegex hruns
    refine ⟨w, hdeclares, hw, ?_⟩
    have hstop : stop - start = w.length := by
      have := hpart.stop
      omega
    simp only [matchValue, ← hl, Word.ofArray_eq, hcaps, Option.bind_some, hfind,
      Option.map_some, Array.toList_extract, List.extract_eq_take_drop, hpart.left, hstop,
      List.take_left]
  rw [← hl]
  constructor
  · intro h
    cases hcaps : p.regex.match? (Word.ofList l) with
    | none => simp [matchValue, ← hl, Word.ofArray_eq, hcaps] at h
    | some caps =>
      obtain ⟨w, hdeclares, hw, hmatch⟩ := hread caps hcaps
      rw [hmatch] at h
      cases h
      rw [String.toList_ofList]
      exact ⟨hdeclares, hw⟩
  · rintro ⟨hdeclares, hv⟩
    obtain ⟨j, caps, hruns⟩ :=
      LineGrammar.exists_runs_regex takes_attributeRegex p.takes_valueRegex hdeclares hv
    obtain ⟨caps', hcaps⟩ := Option.isSome_iff_exists.1
      (Regex.isSome_match? (Word.bounded_ofList l) hruns)
    obtain ⟨w, hw, -, hmatch⟩ := hread caps' hcaps
    rw [hmatch, hw.unique unambiguous_grammar hdeclares, String.ofList_toList]

end AddonAtlas.DeclarationPattern
