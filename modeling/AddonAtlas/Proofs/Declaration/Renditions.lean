import AddonAtlas.Declaration.Record
import AddonAtlas.Proofs.Declaration.Selection

/-!
# The two renditions of a pattern

The written expression of a pattern selects lines, and the pattern reads values back from them.
A line is selected exactly if a value is read off what is left of it without the white space at
its end (`selectsLine_iff`). A value is read off the line itself if, besides, this white space
holds no vertical tab and no form feed (`isSome_matchValue_iff`) : the search program takes them
for an end of the line, and the reader of the value does not. A line that is selected and not
read is kept as unreadable.
-/

namespace AddonAtlas

open AddonAtlas.Text
open Utf8 (encode)

namespace DeclarationPattern

/-- The written expression of a pattern selects a line. -/
def SelectsLine (p : DeclarationPattern) (line : String) : Prop :=
  ∃ rs, Extended.parse (Bytes.ofString p.grepExpression).toList = .ok rs ∧
    rs.any (fun r => r.selects (Bytes.ofString line).word) = true

/-- The white space at the end of a line. -/
def ending (line : String) : List Char :=
  (line.toList.reverse.takeWhile space.accepts).reverse

/-- A line without the white space at its end. -/
def withoutEnding (line : String) : String :=
  String.ofList (dropEndWhile space.accepts line.toList)

/-- The white space at the end of a line is such as the reader of its value knows. -/
def EndsPlainly (line : String) : Prop :=
  '\x0b' ∉ ending line ∧ '\x0c' ∉ ending line

instance (line : String) : Decidable (EndsPlainly line) :=
  inferInstanceAs (Decidable (_ ∧ _))

/-! ## Ends of lines -/

theorem toList_withoutEnding_append (line : String) :
    (withoutEnding line).toList ++ ending line = line.toList := by
  rw [withoutEnding, ending, String.toList_ofList, dropEndWhile_append_reverse]

theorem forall_ending (line : String) : ∀ c ∈ ending line, space.accepts c := fun _ hc =>
  List.mem_takeWhile_imp (List.mem_reverse.1 hc)

/-- The white space at the end is all that stands behind the last other character. -/
theorem ending_of_toList_eq {line : String} {s e : List Char} {x : Char}
    (h : line.toList = s ++ x :: e) (hx : space.accepts x = false)
    (he : ∀ c ∈ e, space.accepts c) : ending line = e := by
  rw [ending, h, List.reverse_append, List.reverse_cons, List.append_assoc,
    List.takeWhile_append_of_pos (by simpa using he)]
  simp [hx]

theorem ending_withoutEnding (line : String) : ending (withoutEnding line) = [] := by
  rw [ending, withoutEnding, String.toList_ofList, dropEndWhile, List.reverse_reverse,
    List.reverse_eq_nil_iff]
  have hhead := List.head?_dropWhile_not space.accepts line.toList.reverse
  cases hkept : line.toList.reverse.dropWhile space.accepts with
  | nil => rfl
  | cons c cs => simpa [hkept, List.takeWhile_cons] using hhead

theorem space_of_lineEnd {c : Char} (h : lineEnd.accepts c) : space.accepts c := by
  simp only [lineEnd, accepts_oneOf, List.mem_cons, List.not_mem_nil, or_false] at h
  rcases h with rfl | rfl | rfl <;> decide

theorem space_of_quote {q : Char} (h : quote.accepts q) : space.accepts q = false := by
  simp only [quote, accepts_oneOf, List.mem_cons, List.not_mem_nil, or_false] at h
  rcases h with rfl | rfl <;> decide

theorem unambiguous_searchGrammar : searchGrammar.Unambiguous :=
  { unambiguous_grammar with quote_lineEnd := fun _ => space_of_quote }

/-- A line declares a value for its reader if it does for the search program, and ends plainly. -/
theorem declares_iff {line : String} (h : '\n' ∉ line.toList) {vs : List Char} :
    grammar.Declares line.toList vs ↔
      searchGrammar.Declares line.toList vs ∧ EndsPlainly line := by
  constructor
  · rintro ⟨b₁, a, b₂, b₃, q, e, hline, hb₁, ha, hb₂, hb₃, hq, he⟩
    have hspace : ∀ c ∈ e, space.accepts c := fun c hc => space_of_lineEnd (he c hc)
    have hending : ending line = e :=
      ending_of_toList_eq (s := b₁ ++ (a ++ (b₂ ++ grammar.equals :: (b₃ ++ q :: vs))))
        (by simpa using hline) (space_of_quote hq) hspace
    refine ⟨⟨b₁, a, b₂, b₃, q, e, hline, hb₁, ha, hb₂, hb₃, hq, hspace⟩, ?_⟩
    rw [EndsPlainly, hending]
    exact ⟨fun hc => absurd (he _ hc) (by decide), fun hc => absurd (he _ hc) (by decide)⟩
  · rintro ⟨⟨b₁, a, b₂, b₃, q, e, hline, hb₁, ha, hb₂, hb₃, hq, he⟩, hv, hf⟩
    have hending : ending line = e :=
      ending_of_toList_eq (s := b₁ ++ (a ++ (b₂ ++ searchGrammar.equals :: (b₃ ++ q :: vs))))
        (by simpa using hline) (space_of_quote hq) he
    refine ⟨b₁, a, b₂, b₃, q, e, hline, hb₁, ha, hb₂, hb₃, hq, fun c hc => ?_⟩
    have hmem := he c hc
    simp only [searchGrammar, space, accepts_oneOf, List.mem_cons, List.not_mem_nil,
      or_false] at hmem
    rcases hmem with rfl | rfl | rfl | rfl | rfl | rfl
    · rfl
    · rfl
    · exact absurd (by simp [hline, hc]) h
    · exact absurd hc (hending ▸ hv)
    · exact absurd hc (hending ▸ hf)
    · rfl

/-! ## Agreement -/

variable {p : DeclarationPattern} {line : String}

theorem isSome_matchValue (h : '\n' ∉ line.toList) :
    (p.matchValue line).isSome = true ↔
      ∃ vs, grammar.Declares line.toList vs ∧ p.Fits (String.ofList vs) := by
  rw [Option.isSome_iff_exists]
  constructor
  · rintro ⟨v, hv⟩
    rw [← String.ofList_toList (s := line), matchValue_eq_some_iff h] at hv
    exact ⟨v.toList, hv.1, by simpa using hv.2⟩
  · rintro ⟨vs, hvs, hfits⟩
    refine ⟨String.ofList vs, ?_⟩
    rw [← String.ofList_toList (s := line), matchValue_eq_some_iff h]
    exact ⟨by simpa using hvs, hfits⟩

theorem selectsLine_iff_declares (hp : ∀ q, p.query? = some q → '\n' ∉ q.toList)
    (h : '\n' ∉ line.toList) :
    p.SelectsLine line ↔
      ∃ vs, searchGrammar.Declares line.toList vs ∧ p.Fits (String.ofList vs) := by
  rw [SelectsLine, any_selects_iff hp, Bytes.word_eq, Bytes.toList_ofString, selects_encode h]

/-- A value is read off a line exactly if the line is selected and ends plainly. -/
theorem isSome_matchValue_iff (hp : ∀ q, p.query? = some q → '\n' ∉ q.toList)
    (h : '\n' ∉ line.toList) :
    (p.matchValue line).isSome = true ↔ p.SelectsLine line ∧ EndsPlainly line := by
  rw [isSome_matchValue h, selectsLine_iff_declares hp h]
  simp only [declares_iff h]
  exact ⟨fun ⟨vs, ⟨hvs, hends⟩, hfits⟩ => ⟨⟨vs, hvs, hfits⟩, hends⟩,
    fun ⟨⟨vs, hvs, hfits⟩, hends⟩ => ⟨vs, ⟨hvs, hends⟩, hfits⟩⟩

/-- A line is selected exactly if a value is read off it without the white space at its end. -/
theorem selectsLine_iff (hp : ∀ q, p.query? = some q → '\n' ∉ q.toList)
    (h : '\n' ∉ line.toList) :
    p.SelectsLine line ↔ (p.matchValue (withoutEnding line)).isSome = true := by
  have hsplit := toList_withoutEnding_append line
  have h' : '\n' ∉ (withoutEnding line).toList := fun hmem =>
    h (hsplit ▸ List.mem_append_left _ hmem)
  have hends : EndsPlainly (withoutEnding line) := by simp [EndsPlainly, ending_withoutEnding]
  rw [isSome_matchValue h', selectsLine_iff_declares hp h]
  refine exists_congr fun vs => and_congr_left fun _ => ?_
  rw [declares_iff h', and_iff_left hends, ← hsplit]
  exact LineGrammar.declares_append unambiguous_searchGrammar (forall_ending line)

/-- The query of a pattern is the one it is made of. -/
theorem query?_of {mode : Option SearchMode} {query : Option String} {q : String}
    (h : (DeclarationPattern.of mode query).query? = some q) : query = some q := by
  cases query with
  | none => cases h
  | some q' =>
    simp only [DeclarationPattern.of] at h
    split at h
    · cases h
    · split at h <;> cases h <;> rfl

/-- The two renditions of a pattern agree but for vertical tabs and form feeds in the white space
at the end of a line. The line is selected exactly if its value is read without that white space ;
a value is read off the line itself exactly if the line is selected and ends plainly. A line that
is selected for any value has the value read off it for its identity if it ends plainly, and is
unreadable if it does not. -/
theorem selectsLine_iff_matchValue (mode : Option SearchMode) {query : Option String}
    (hquery : ∀ q, query = some q → '\n' ∉ q.toList) {line : String} (hline : '\n' ∉ line.toList) :
    ((of mode query).SelectsLine line ↔
        ((of mode query).matchValue (withoutEnding line)).isSome = true) ∧
      (((of mode query).matchValue line).isSome = true ↔
        (of mode query).SelectsLine line ∧ EndsPlainly line) ∧
      ∀ path n, free.SelectsLine line →
        (EndsPlainly line → ∃ v, identity.matchValue line = some v ∧
          (Declaration.ofHit .identity ⟨path, n, line⟩).identity = v) ∧
        (¬EndsPlainly line →
          (Declaration.ofHit .identity ⟨path, n, line⟩).identity = Declaration.unreadable) := by
  have hp : ∀ q, (of mode query).query? = some q → '\n' ∉ q.toList :=
    fun q hq => hquery q (query?_of hq)
  have hfree : ∀ q, free.query? = some q → '\n' ∉ q.toList := fun _ hq => by cases hq
  refine ⟨selectsLine_iff hp hline, isSome_matchValue_iff hp hline, fun path n hselects => ?_⟩
  have hread := isSome_matchValue_iff hfree hline
  constructor
  · intro hends
    obtain ⟨v, hv⟩ := Option.isSome_iff_exists.1 (hread.2 ⟨hselects, hends⟩)
    exact ⟨v, hv, by simp [Declaration.ofHit, identity, hv]⟩
  · intro hends
    have hnone : free.matchValue line = none :=
      Option.not_isSome_iff_eq_none.1 fun hsome => hends (hread.1 hsome).2
    simp [Declaration.ofHit, identity, hnone]

theorem selectsLine_iff_matchValue_carriageReturn :
    (∀ q, some "sale" = some q → '\n' ∉ q.toList) ∧
      '\n' ∉ "_name = \"sale.order\"\r".toList ∧
      (((of (some .substring) (some "sale")).matchValue "_name = \"sale.order\"\r").isSome =
          true ↔
        (of (some .substring) (some "sale")).SelectsLine "_name = \"sale.order\"\r" ∧
          EndsPlainly "_name = \"sale.order\"\r") :=
  have hquery : ∀ q, some "sale" = some q → '\n' ∉ q.toList := fun q hq => by
    cases hq
    decide
  have hline : '\n' ∉ "_name = \"sale.order\"\r".toList := by decide
  ⟨hquery, hline, (selectsLine_iff_matchValue (some .substring) hquery hline).2.1⟩

/-- A line that ends in a form feed. -/
def formFeedLine : String := "_name = \"x\"\x0c"

/-- The line is selected for any value, no value is read off it, and its declaration is
unreadable. -/
theorem selectsLine_formFeedLine :
    free.SelectsLine formFeedLine ∧ free.matchValue formFeedLine = none ∧
      ∀ path n, (Declaration.ofHit .identity ⟨path, n, formFeedLine⟩).identity = "=_=" := by
  have hfree : ∀ q, free.query? = some q → '\n' ∉ q.toList := fun _ hq => by cases hq
  have hline : '\n' ∉ formFeedLine.toList := by decide
  have hend : ∀ c ∈ ['\x0c'], space.accepts c := List.forall_mem_singleton.2 rfl
  have hselects : free.SelectsLine formFeedLine :=
    (selectsLine_iff_declares hfree hline).2 ⟨['x'], declares_name hend ['x'], trivial⟩
  have hnone : free.matchValue formFeedLine = none :=
    Option.not_isSome_iff_eq_none.1 fun hsome =>
      absurd ((isSome_matchValue_iff hfree hline).1 hsome).2 (by decide)
  exact ⟨hselects, hnone, fun path n => by
    simp [Declaration.ofHit, identity, hnone, Declaration.unreadable]⟩

end DeclarationPattern

end AddonAtlas
