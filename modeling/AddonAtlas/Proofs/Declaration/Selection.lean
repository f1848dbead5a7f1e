import AddonAtlas.Proofs.Declaration.Written
import AddonAtlas.Proofs.Text.Ending
import Mathlib.Data.List.Infix

/-!
# Lines selected and values read

Both renditions of a pattern select by one grammar but for what may end a line : to the search
program any white space does, to whoever reads the value back only spaces, tabs and carriage
returns. So the bytes of a line are selected if the line declares, in the grammar with the wider
end, a value that the pattern asks for (`selects_encode`), and a value is read off a line if the
line declares it in the narrower one (`matchValue_eq_some_iff`). On plain lines, which have no
newline, vertical tab or form feed, the two are one (`selects_encode_plain`).
-/

namespace AddonAtlas.DeclarationPattern

open AddonAtlas.Text
open Utf8 (byte encode)

/-- A line without newlines, vertical tabs and form feeds. -/
structure Plain (cs : List Char) : Prop where
  newline : '\n' ∉ cs
  verticalTab : '\x0b' ∉ cs
  formFeed : '\x0c' ∉ cs

theorem Plain.newline_notMem_encode {cs : List Char} (h : Plain cs) :
    Bytes.newline ∉ encode cs :=
  mt Bytes.newline_mem_encode.1 h.newline

/-- What a pattern asks of a value that stands on a line. -/
def Fits : DeclarationPattern → String → Prop
  | free, _ => True
  | exactly q, v => v = q
  | containing q, v => q.toList <:+: v.toList

instance (p : DeclarationPattern) (v : String) : Decidable (p.Fits v) :=
  match p with
  | free => inferInstanceAs (Decidable True)
  | exactly q => inferInstanceAs (Decidable (v = q))
  | containing q => inferInstanceAs (Decidable (q.toList <:+: v.toList))

/-! ## Bytes and characters -/

theorem accepts_oneOf {α : Type} [BEq α] [LawfulBEq α] {xs : List α} {x : α} :
    (SymbolClass.oneOf xs).accepts x = true ↔ x ∈ xs :=
  List.contains_iff_mem

/-- The bytes of blanks. -/
theorem forall_byteBlank {cs : List Char} :
    (∀ x ∈ encode cs, byteBlank.accepts x) ↔ ∀ c ∈ cs, blank.accepts c := by
  simp only [byteBlank, blank, accepts_oneOf]
  have hbytes : [32, 9] = [' ', '\t'].map byte := rfl
  rw [hbytes]
  exact Utf8.forall_mem_encode (by decide)

/-- What may end a line for the search program. -/
def space : SymbolClass Char := .oneOf [' ', '\t', '\n', '\x0b', '\x0c', '\r']

/-- The bytes of white space. -/
theorem forall_byteSpace {cs : List Char} :
    (∀ x ∈ encode cs, byteSpace.accepts x) ↔ ∀ c ∈ cs, space.accepts c := by
  simp only [byteSpace, space, accepts_oneOf]
  have hbytes : [32, 9, 10, 11, 12, 13] =
      [' ', '\t', '\n', '\x0b', '\x0c', '\r'].map byte := rfl
  rw [hbytes]
  exact Utf8.forall_mem_encode (by decide)

/-- The grammar of lines of characters with the line end of the search program. -/
def searchGrammar : LineGrammar Char :=
  { grammar with lineEnd := space }

theorem mem_byteAttributes {a : List UInt8} :
    a ∈ byteGrammar.attributes ↔ ∃ cs ∈ grammar.attributes, a = encode cs := by
  simp [byteGrammar, grammar, attributes, spell]

/-- The bytes of a line declare the bytes of what the line declares. -/
theorem declares_encode {cs : List Char} {v : List UInt8} :
    byteGrammar.Declares (encode cs) v ↔ ∃ vs, v = encode vs ∧ searchGrammar.Declares cs vs := by
  constructor
  · rintro ⟨b₁, a, b₂, b₃, q, e, hline, hb₁, ha, hb₂, hb₃, hq, he⟩
    obtain ⟨qc, hqc, rfl⟩ : ∃ qc, quote.accepts qc ∧ q = byte qc := by
      simp only [byteGrammar, byteQuote, accepts_oneOf, List.mem_cons, List.not_mem_nil,
        or_false] at hq
      rcases hq with rfl | rfl
      · exact ⟨'"', rfl, rfl⟩
      · exact ⟨'\'', rfl, rfl⟩
    have hqlt : qc.toNat < 0x80 := by
      simp only [quote, accepts_oneOf, List.mem_cons, List.not_mem_nil, or_false] at hqc
      rcases hqc with rfl | rfl <;> decide
    -- the quotes, the equals sign and the attribute cut the text, the first quote first
    have hline : encode cs = (b₁ ++ (a ++ (b₂ ++ byte '=' :: b₃))) ++
        byte qc :: (v ++ byte qc :: e) := by
      rw [hline]
      simp [byteGrammar, byte]
    obtain ⟨ds, es, rfl, hds, hes⟩ := Utf8.exists_of_encode_eq hqlt hline
    obtain ⟨vs, e', rfl, rfl, rfl⟩ := Utf8.exists_of_encode_eq hqlt hes.symm
    have hfront : encode ds = (b₁ ++ (a ++ b₂)) ++ byte '=' :: b₃ := by
      rw [← hds]
      simp
    obtain ⟨ds', s₃, rfl, hds', rfl⟩ := Utf8.exists_of_encode_eq (by decide) hfront
    obtain ⟨as, has, rfl⟩ := mem_byteAttributes.1 ha
    obtain ⟨as', rfl⟩ := exists_of_mem_attributes has
    obtain ⟨s₁, t, rfl, rfl, ht⟩ :=
      Utf8.exists_of_encode_eq (c := '_') (y := encode as' ++ b₂) (by decide) hds'.symm
    obtain ⟨s₂, rfl, rfl⟩ := Utf8.exists_of_encode_append ht
    exact ⟨vs, rfl, s₁, _, s₂, s₃, qc, e', by simp [searchGrammar, grammar],
      forall_byteBlank.1 hb₁, has, forall_byteBlank.1 hb₂, forall_byteBlank.1 hb₃, hqc,
      forall_byteSpace.1 he⟩
  · rintro ⟨vs, rfl, b₁, a, b₂, b₃, q, e, rfl, hb₁, ha, hb₂, hb₃, hq, he⟩
    obtain ⟨hqlt, hqb⟩ : q.toNat < 0x80 ∧ byteQuote.accepts (byte q) := by
      simp only [searchGrammar, grammar, quote, accepts_oneOf, List.mem_cons, List.not_mem_nil,
        or_false] at hq
      rcases hq with rfl | rfl <;> decide
    have heq : String.utf8EncodeChar '=' = [61] := rfl
    refine ⟨encode b₁, encode a, encode b₂, encode b₃, byte q, encode e, ?_,
      forall_byteBlank.2 hb₁, mem_byteAttributes.2 ⟨a, ha, rfl⟩, forall_byteBlank.2 hb₂,
      forall_byteBlank.2 hb₃, hqb, forall_byteSpace.2 he⟩
    simp [searchGrammar, grammar, byteGrammar, Utf8.encodeChar_of_lt hqlt, heq]

/-! ## Values read -/

theorem mem_of_declares {α : Type} [BEq α] {g : LineGrammar α} {l v : List α}
    (h : g.Declares l v) : ∀ x ∈ v, x ∈ l := by
  obtain ⟨b₁, a, b₂, b₃, q, e, rfl, -⟩ := h
  exact fun x hx => by simp [hx]

/-- Without newlines in the value, nothing is asked of what stands around a query. -/
theorem admits_containing {α : Type} {spell : String → List α} {newline : α} {q : String}
    {v : List α} (h : newline ∉ v) :
    (containing q).Admits spell newline v ↔ spell q <:+: v := by
  constructor
  · rintro ⟨a, b, he, -, -⟩
    exact ⟨a, b, by rw [he, List.append_assoc]⟩
  · rintro ⟨a, b, he⟩
    rw [List.append_assoc] at he
    refine ⟨a, b, he.symm, fun hmem => h ?_, fun hmem => h ?_⟩ <;> simp [← he, hmem]

theorem admits_toList {p : DeclarationPattern} {v : String} (h : '\n' ∉ v.toList) :
    p.Admits String.toList '\n' v.toList ↔ p.Fits v := by
  cases p with
  | free => exact iff_of_true h trivial
  | exactly q => exact String.toList_inj
  | containing q => exact admits_containing h

/-- The value of a line is what the line declares, if the pattern asks for it. -/
theorem matchValue_eq_some_iff {p : DeclarationPattern} {cs : List Char} (h : '\n' ∉ cs)
    {v : String} :
    p.matchValue (String.ofList cs) = some v ↔ grammar.Declares cs v.toList ∧ p.Fits v := by
  rw [matchValue_eq_some, String.toList_ofList]
  have hend : ∀ c ∈ (cs.reverse.takeWhile isLineBreak).reverse, grammar.lineEnd.accepts c := by
    intro c hc
    rw [List.mem_reverse] at hc
    have hbreak := List.mem_takeWhile_imp hc
    have hmem := List.mem_reverse.1 ((List.takeWhile_prefix _).mem hc)
    simp only [isLineBreak, Bool.or_eq_true, beq_iff_eq] at hbreak
    rcases hbreak with rfl | rfl
    · rfl
    · exact absurd hmem h
  have hdeclares := LineGrammar.declares_append unambiguous_grammar
    (l := dropEndWhile isLineBreak cs) (v := v.toList) hend
  rw [dropEndWhile_append_reverse] at hdeclares
  rw [← hdeclares]
  exact and_congr_right fun hv => admits_toList fun hmem => h (mem_of_declares hv _ hmem)

theorem matchValue_free {cs : List Char} (h : '\n' ∉ cs) {v : String} :
    free.matchValue (String.ofList cs) = some v ↔ grammar.Declares cs v.toList :=
  (matchValue_eq_some_iff h).trans (and_iff_left trivial)

/-! ## Lines selected -/

theorem admits_encode {p : DeclarationPattern} {vs : List Char} (h : '\n' ∉ vs) :
    p.Admits spell Bytes.newline (encode vs) ↔ p.Fits (String.ofList vs) := by
  have hfree : Bytes.newline ∉ encode vs :=
    fun hmem => h (Bytes.newline_mem_encode.1 hmem)
  cases p with
  | free => exact iff_of_true hfree trivial
  | exactly q =>
    simp only [Admits, Fits, spell]
    constructor
    · intro he
      rw [Utf8.encode_injective he, String.ofList_toList]
    · rintro rfl
      rw [String.toList_ofList]
  | containing q =>
    rw [admits_containing hfree, Fits, String.toList_ofList]
    exact Utf8.encode_infix_encode

/-- The search program selects a line exactly if the line declares a value, in the grammar with
the wider end, that the pattern asks for. -/
theorem selects_encode {p : DeclarationPattern} {cs : List Char} (h : '\n' ∉ cs) :
    p.byteRegex.selects (.ofList (encode cs)) = true ↔
      ∃ vs, searchGrammar.Declares cs vs ∧ p.Fits (String.ofList vs) := by
  rw [selects_byteRegex]
  have hfree : ∀ {vs}, searchGrammar.Declares cs vs → '\n' ∉ vs :=
    fun hvs hmem => h (mem_of_declares hvs _ hmem)
  constructor
  · rintro ⟨_, hdeclares, hv⟩
    obtain ⟨vs, rfl, hvs⟩ := declares_encode.1 hdeclares
    exact ⟨vs, hvs, (admits_encode (hfree hvs)).1 hv⟩
  · rintro ⟨vs, hvs, hv⟩
    exact ⟨encode vs, declares_encode.2 ⟨vs, rfl, hvs⟩, (admits_encode (hfree hvs)).2 hv⟩

/-- On plain lines the two line ends are one. -/
theorem declares_searchGrammar {cs vs : List Char} (h : Plain cs) :
    searchGrammar.Declares cs vs ↔ grammar.Declares cs vs := by
  have hend : ∀ c ∈ cs, searchGrammar.lineEnd.accepts c ↔ grammar.lineEnd.accepts c := by
    intro c hc
    have hn : c ≠ '\n' := fun he => h.newline (he ▸ hc)
    have hv : c ≠ '\x0b' := fun he => h.verticalTab (he ▸ hc)
    have hf : c ≠ '\x0c' := fun he => h.formFeed (he ▸ hc)
    simp [searchGrammar, grammar, space, lineEnd, accepts_oneOf, hn, hv, hf]
  constructor
  all_goals
    rintro ⟨b₁, a, b₂, b₃, q, e, rfl, hb₁, ha, hb₂, hb₃, hq, he⟩
    refine ⟨b₁, a, b₂, b₃, q, e, rfl, hb₁, ha, hb₂, hb₃, hq, fun c hc => ?_⟩
  · exact (hend c (by simp [hc])).1 (he c hc)
  · exact (hend c (by simp [hc])).2 (he c hc)

/-- A name in double quotes is declared, with any white space behind it. -/
theorem declares_name {e : List Char} (he : ∀ c ∈ e, space.accepts c) (v : List Char) :
    searchGrammar.Declares ("_name = \"".toList ++ (v ++ '"' :: e)) v := by
  have hname : "_name = \"".toList = "_name".toList ++ [' ', '=', ' ', '"'] := by decide
  have hblank : ∀ c ∈ [' '], searchGrammar.blank.accepts c := List.forall_mem_singleton.2 rfl
  refine ⟨[], "_name".toList, [' '], [' '], '"', e, ?_, by simp, ?_, hblank, hblank, rfl, he⟩
  · rw [hname, List.append_assoc]
    rfl
  · exact List.mem_cons_self

/-- The search program selects a plain line exactly if a value is read off it that the pattern
asks for. -/
theorem selects_encode_plain {p : DeclarationPattern} {cs : List Char} (h : Plain cs) :
    p.byteRegex.selects (.ofList (encode cs)) = true ↔
      ∃ v, free.matchValue (String.ofList cs) = some v ∧ p.Fits v := by
  rw [selects_encode h.newline]
  simp only [declares_searchGrammar h, matchValue_free h.newline]
  exact ⟨fun ⟨vs, hvs, hv⟩ => ⟨String.ofList vs, by rwa [String.toList_ofList], hv⟩,
    fun ⟨v, hvs, hv⟩ => ⟨v.toList, hvs, by rwa [String.ofList_toList]⟩⟩

end AddonAtlas.DeclarationPattern
