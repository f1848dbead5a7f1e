import AddonAtlas.Proofs.Declaration.Values

/-!
# Queries are literal

To the search program a query is its bytes and nothing else. The written expression of a pattern
selects a line of bytes exactly if the line is a spelling of a value (`posixGrammar`) that is the
bytes of the query, or that holds them ; without a query, or with an empty one, any value will do
(`query_is_literal`). Lines are any bytes here, be they a text or not.

The reason is that every special character of a query is written with a backslash in front, so the
query is read as one plain symbol for each of its bytes (`tokens_escapeExtended`).
-/

namespace AddonAtlas.DeclarationPattern

open Extended
open Utf8 (encode)

/-- The bytes of a declaration line. -/
def posixGrammar : LineGrammar UInt8 where
  blank := .oneOf [0x20, 0x09]
  attributes := ["_name".toUTF8.data.toList, "_inherit".toUTF8.data.toList]
  equals := 0x3D
  quote := .oneOf [0x22, 0x27]
  lineEnd := .oneOf [0x20, 0x09, 0x0A, 0x0B, 0x0C, 0x0D]

theorem byteGrammar_eq : byteGrammar = posixGrammar := rfl

/-- A line of bytes is a spelling of a value. -/
def Spells (line : Bytes) (v : List UInt8) : Prop :=
  ∃ s : posixGrammar.Spelling, line.toList = s.write v

/-- The written expression of a pattern selects a line of bytes. -/
def SelectsBytes (p : DeclarationPattern) (line : Bytes) : Prop :=
  ∃ rs, Extended.parse (Bytes.ofString p.grepExpression).toList = .ok rs ∧
    rs.any (fun r => r.selects line.word) = true

/-- A query is read as its bytes, each of which stands for itself. -/
theorem tokens_escapeExtended (q : String) :
    tokens (spell (escapeExtended q)) = .ok ((encode q.toList).map fun b => .atom (.only b)) := by
  have hescape := tokensFrom_escape q [] []
  rw [List.append_nil, List.append_nil] at hescape
  unfold tokens
  rw [hescape, tokensFrom, List.reverse_reverse]
  rfl

section Lines

variable {p : DeclarationPattern} {line : Bytes}

/-- What is selected are the spellings of the values that the pattern admits. -/
theorem selectsBytes_iff_admits (hp : ∀ q, p.query? = some q → '\n' ∉ q.toList) :
    p.SelectsBytes line ↔ ∃ v, Spells line v ∧ p.Admits spell Bytes.newline v := by
  rw [SelectsBytes, any_selects_iff hp, Bytes.word_eq, selects_byteRegex, byteGrammar_eq]
  simp only [LineGrammar.declares_iff_exists_write, Spells]

theorem newline_notMem_of_query {q : String} (hp : p.query? = some q) (hq : '\n' ∉ q.toList) :
    ∀ q', p.query? = some q' → '\n' ∉ q'.toList := by
  intro q' hq'
  obtain rfl : q = q' := Option.some.inj (hp.symm.trans hq')
  exact hq

theorem newline_notMem_of_spells (hline : Bytes.newline ∉ line.toList) {v : List UInt8}
    (hv : Spells line v) : Bytes.newline ∉ v := by
  have hdeclares : posixGrammar.Declares line.toList v :=
    LineGrammar.declares_iff_exists_write.2 hv
  exact fun hmem => hline (mem_of_declares hdeclares _ hmem)

theorem selectsBytes_free (hline : Bytes.newline ∉ line.toList) :
    free.SelectsBytes line ↔ ∃ v, Spells line v := by
  rw [selectsBytes_iff_admits fun q hq => by cases hq]
  exact exists_congr fun v => and_iff_left_of_imp fun hv => newline_notMem_of_spells hline hv

theorem selectsBytes_exactly {q : String} (hq : '\n' ∉ q.toList) :
    (exactly q).SelectsBytes line ↔ Spells line (encode q.toList) := by
  rw [selectsBytes_iff_admits (newline_notMem_of_query rfl hq)]
  constructor
  · rintro ⟨v, hv, rfl⟩
    exact hv
  · exact fun hv => ⟨_, hv, rfl⟩

theorem selectsBytes_containing {q : String} (hq : '\n' ∉ q.toList)
    (hline : Bytes.newline ∉ line.toList) :
    (containing q).SelectsBytes line ↔ ∃ v, Spells line v ∧ encode q.toList <:+: v := by
  rw [selectsBytes_iff_admits (newline_notMem_of_query rfl hq)]
  refine exists_congr fun v => and_congr_right fun hv => ?_
  exact admits_containing (newline_notMem_of_spells hline hv)

end Lines

/-- A line is selected exactly if it is a spelling of a value that is the bytes of the query, or
that holds them, or, without a query or with an empty one, of any value. No byte of a query is read as
an operator. -/
theorem query_is_literal {q : String} (hq : '\n' ∉ q.toList) {line : Bytes}
    (hline : Bytes.newline ∉ line.toList) :
    (q ≠ "" → ((of (some .strict) (some q)).SelectsBytes line ↔ Spells line (encode q.toList))) ∧
      ((of (some .substring) (some q)).SelectsBytes line ↔
        ∃ v, Spells line v ∧ encode q.toList <:+: v) ∧
      (∀ mode, (of mode none).SelectsBytes line ↔ ∃ v, Spells line v) ∧
      (∀ mode, of mode (some "") = of mode none) ∧
      tokens (spell (escapeExtended q)) =
        .ok ((encode q.toList).map fun b => .atom (.only b)) := by
  refine ⟨?_, ?_, ?_, ?_, tokens_escapeExtended q⟩
  · intro hne
    have hstrict : of (some .strict) (some q) = exactly q := by simp [of, hne]
    rw [hstrict]
    exact selectsBytes_exactly hq
  · by_cases hempty : q = ""
    · -- every value holds the empty text
      subst hempty
      have hfree : of (some .substring) (some "") = free := by simp [of]
      have hholds : ∀ v : List UInt8, encode "".toList <:+: v := fun v => List.nil_infix
      rw [hfree, selectsBytes_free hline]
      exact exists_congr fun v => (and_iff_left (hholds v)).symm
    · have hsubstring : of (some .substring) (some q) = containing q := by simp [of, hempty]
      rw [hsubstring]
      exact selectsBytes_containing hq hline
  · exact fun mode => selectsBytes_free hline
  · exact fun mode => by simp [of]

/-- A query of special characters selects the line that declares it, with a vertical tab behind. -/
theorem query_is_literal_special :
    '\n' ∉ "a.*[\\".toList ∧ Bytes.newline ∉ (Bytes.ofString "_name='a.*[\\'\x0b").toList ∧
      (of (some .strict) (some "a.*[\\")).SelectsBytes (.ofString "_name='a.*[\\'\x0b") := by
  have hq : '\n' ∉ "a.*[\\".toList := by decide
  have hline : Bytes.newline ∉ (Bytes.ofString "_name='a.*[\\'\x0b").toList := by
    rw [Bytes.toList_ofString, Bytes.newline_mem_encode]
    decide
  refine ⟨hq, hline, ((query_is_literal hq hline).1 (by decide)).2 ?_⟩
  refine ⟨⟨[], encode "_name".toList, [], [], 0x27, [0x0B], List.forall_mem_nil _, by decide,
    List.forall_mem_nil _, List.forall_mem_nil _, by decide,
    List.forall_mem_singleton.2 (by decide)⟩, ?_⟩
  rw [Bytes.toList_ofString]
  decide

/-- An empty query is no query, also where the value is to be the query : every value will do, not
just the empty one. -/
theorem empty_query_not_literal :
    '\n' ∉ "".toList ∧ Bytes.newline ∉ (Bytes.ofString "_name='x'").toList ∧
      ¬((of (some .strict) (some "")).SelectsBytes (.ofString "_name='x'") ↔
        Spells (.ofString "_name='x'") (encode "".toList)) := by
  have hline : Bytes.newline ∉ (Bytes.ofString "_name='x'").toList := by
    rw [Bytes.toList_ofString, Bytes.newline_mem_encode]
    decide
  have hspelled : Spells (.ofString "_name='x'") (encode "x".toList) := by
    refine ⟨⟨[], encode "_name".toList, [], [], 0x27, [], List.forall_mem_nil _, by decide,
      List.forall_mem_nil _, List.forall_mem_nil _, by decide, List.forall_mem_nil _⟩, ?_⟩
    rw [Bytes.toList_ofString]
    decide
  have hselected : (of (some .strict) (some "")).SelectsBytes (.ofString "_name='x'") := by
    have hfree : of (some .strict) (some "") = free := by simp [of]
    rw [hfree, selectsBytes_free hline]
    exact ⟨_, hspelled⟩
  have hother : ¬Spells (.ofString "_name='x'") (encode "".toList) := by
    rintro ⟨s, hs⟩
    -- the letter `x` stands in the line, and nothing but a value can bring it there
    have hmem : 0x78 ∈ s.write (encode "".toList) := by
      rw [← hs, Bytes.toList_ofString]
      decide
    exact absurd (s.of_mem_write hmem) (by decide)
  exact ⟨by decide, hline, fun h => hother (h.1 hselected)⟩

end AddonAtlas.DeclarationPattern
