import AddonAtlas.Declaration.Record
import AddonAtlas.Proofs.Declaration.Selection

/-!
# Values read off lines

A line is written from a value and from all that stands beside the value : a `LineGrammar.Spelling`.
The pattern of any value reads a value off a line exactly if the line, without the line breaks at
its end, is some spelling of this value (`Declared`), and a value is read back from whatever spelling it
is written in (`identity_reads_spellings`). The value may hold quotes, blanks and equals signs ; it
may not hold a newline.

A pattern with a query reads a value exactly if the pattern of any value reads it and the value is
the query, or holds it (`matchValue_of_query`). Nothing in a query moves the ends of the value : a
line declares one value at most, whatever is asked of it.
-/

namespace AddonAtlas

open AddonAtlas.Text

/-! ## Spellings -/

namespace LineGrammar

variable {α : Type} [BEq α] {g : LineGrammar α}

/-- All that a line says beside the value it declares. -/
structure Spelling (g : LineGrammar α) where
  indent : List α
  name : List α
  /-- The blanks in front of the equals sign. -/
  before : List α
  /-- The blanks behind the equals sign. -/
  after : List α
  quote : α
  ending : List α
  forall_indent : ∀ x ∈ indent, g.blank.accepts x
  name_mem : name ∈ g.attributes
  forall_before : ∀ x ∈ before, g.blank.accepts x
  forall_after : ∀ x ∈ after, g.blank.accepts x
  accepts_quote : g.quote.accepts quote
  forall_ending : ∀ x ∈ ending, g.lineEnd.accepts x

/-- The line that declares a value in a spelling. -/
def Spelling.write (s : g.Spelling) (value : List α) : List α :=
  s.indent ++ (s.name ++ (s.before ++ g.equals ::
    (s.after ++ s.quote :: (value ++ s.quote :: s.ending))))

theorem Spelling.declares_write (s : g.Spelling) (value : List α) :
    g.Declares (s.write value) value :=
  ⟨s.indent, s.name, s.before, s.after, s.quote, s.ending, rfl, s.forall_indent,
    s.name_mem, s.forall_before, s.forall_after, s.accepts_quote, s.forall_ending⟩

/-- The symbols beside the value are those of the grammar. -/
theorem Spelling.of_mem_write (s : g.Spelling) {value : List α} {x : α}
    (hx : x ∈ s.write value) :
    x ∈ value ∨ g.blank.accepts x ∨ (∃ a ∈ g.attributes, x ∈ a) ∨ x = g.equals ∨
      g.quote.accepts x ∨ g.lineEnd.accepts x := by
  unfold Spelling.write at hx
  simp only [List.mem_append, List.mem_cons] at hx
  rcases hx with hx | hx | hx | rfl | hx | rfl | hx | rfl | hx
  · exact .inr (.inl (s.forall_indent x hx))
  · exact .inr (.inr (.inl ⟨s.name, s.name_mem, hx⟩))
  · exact .inr (.inl (s.forall_before x hx))
  · exact .inr (.inr (.inr (.inl rfl)))
  · exact .inr (.inl (s.forall_after x hx))
  · exact .inr (.inr (.inr (.inr (.inl s.accepts_quote))))
  · exact .inl hx
  · exact .inr (.inr (.inr (.inr (.inl s.accepts_quote))))
  · exact .inr (.inr (.inr (.inr (.inr (s.forall_ending x hx)))))

/-- What a line declares is what it is a spelling of. -/
theorem declares_iff_exists_write {line value : List α} :
    g.Declares line value ↔ ∃ s : g.Spelling, line = s.write value := by
  constructor
  · rintro ⟨b₁, a, b₂, b₃, q, e, hline, hb₁, ha, hb₂, hb₃, hq, he⟩
    exact ⟨⟨b₁, a, b₂, b₃, q, e, hb₁, ha, hb₂, hb₃, hq, he⟩, hline⟩
  · rintro ⟨s, rfl⟩
    exact s.declares_write value

end LineGrammar

namespace DeclarationPattern

/-! ## Lines with line breaks at their end -/

/-- A line without the carriage returns and newlines at its end. -/
def withoutBreaks (line : String) : List Char :=
  dropEndWhile (fun c => c == '\r' || c == '\n') line.toList

/-- A text that has no newline but among the line breaks at its end. -/
def IsOneLine (line : String) : Prop :=
  ∃ text breaks, line.toList = text ++ breaks ∧ '\n' ∉ text ∧ ∀ c ∈ breaks, c = '\r' ∨ c = '\n'

theorem IsOneLine.newline_notMem {line : String} (h : IsOneLine line) :
    '\n' ∉ withoutBreaks line := by
  obtain ⟨text, breaks, hline, htext, hbreaks⟩ := h
  have hdrop : withoutBreaks line = dropEndWhile (fun c => c == '\r' || c == '\n') text := by
    unfold withoutBreaks
    rw [hline]
    exact dropEndWhile_append_of_pos (by simpa using hbreaks)
  rw [hdrop]
  exact fun hmem => htext (mem_of_mem_dropEndWhile hmem)

/-! ## Spellings of characters -/

/-- The symbols of a declaration line. -/
def lineGrammar : LineGrammar Char where
  blank := .oneOf [' ', '\t']
  attributes := ["_name".toList, "_inherit".toList]
  equals := '='
  quote := .oneOf ['"', '\'']
  lineEnd := .oneOf [' ', '\t', '\r']

theorem grammar_eq : grammar = lineGrammar := rfl

/-- A line is a spelling of a value, but for the line breaks at its end. -/
def Declared (line v : String) : Prop :=
  '\n' ∉ v.toList ∧ ∃ s : lineGrammar.Spelling, withoutBreaks line = s.write v.toList

theorem identity_matchValue {line v : String} :
    identity.matchValue line = some v ↔ Declared line v := by
  rw [matchValue_eq_some, Declared, ← LineGrammar.declares_iff_exists_write, ← grammar_eq]
  exact and_comm

/-- No declaration has a newline in its identity, whatever the line it was read from. -/
theorem newline_notMem_identity (h : Hit) :
    '\n' ∉ (Declaration.ofHit .identity h).identity.toList := by
  unfold Declaration.ofHit
  cases hread : identity.matchValue h.text with
  | none =>
    simp only [Option.getD_none]
    decide
  | some v =>
    simp only [Option.getD_some]
    exact (identity_matchValue.1 hread).1

/-- A spelling brings no newline into the line. -/
theorem newline_notMem_write (s : lineGrammar.Spelling) {v : List Char} (hv : '\n' ∉ v) :
    '\n' ∉ s.write v := by
  intro hmem
  rcases s.of_mem_write hmem with hvalue | hbeside
  · exact hv hvalue
  · exact absurd hbeside (by decide)

/-- A value is read back from every spelling of it. -/
theorem matchValue_write (s : lineGrammar.Spelling) {v : String} (hv : '\n' ∉ v.toList) :
    identity.matchValue (String.ofList (s.write v.toList)) = some v := by
  have hline : '\n' ∉ s.write v.toList := newline_notMem_write s hv
  exact (matchValue_free hline).2 (s.declares_write v.toList)

/-- A line has a value exactly if it is a spelling of it, without the line breaks at its end. It has
one value at most, a value without newlines is read back from every spelling of it, and the
declaration of a hit has this value, or is unreadable if there is none. -/
theorem identity_reads_spellings (line : String) :
    (∀ v, identity.matchValue line = some v ↔ Declared line v) ∧
      (∀ v w, Declared line v → Declared line w → v = w) ∧
      (∀ (s : lineGrammar.Spelling) (v : String), '\n' ∉ v.toList →
        identity.matchValue (String.ofList (s.write v.toList)) = some v) ∧
      ∀ path n,
        (∀ v, Declared line v → Declaration.ofHit .identity ⟨path, n, line⟩ = ⟨v, path, n⟩) ∧
        ((¬∃ v, Declared line v) →
          Declaration.ofHit .identity ⟨path, n, line⟩ = ⟨"=_=", path, n⟩) := by
  refine ⟨fun v => identity_matchValue, ?_, fun s v hv => matchValue_write s hv, ?_⟩
  · intro v w hv hw
    rw [← identity_matchValue] at hv hw
    exact Option.some.inj (hv.symm.trans hw)
  · intro path n
    constructor
    · intro v hv
      have hread : identity.matchValue line = some v := identity_matchValue.2 hv
      simp [Declaration.ofHit, hread]
    · intro hnone
      have hread : identity.matchValue line = none := by
        rw [Option.eq_none_iff_forall_ne_some]
        exact fun v hv => hnone ⟨v, identity_matchValue.1 hv⟩
      simp [Declaration.ofHit, hread, Declaration.unreadable]

/-- The last quote of the line closes the value. -/
example : identity.matchValue "\t_name='it's'\t\r\n" = some "it's" := by decide +kernel

/-! ## Modes -/

/-- On one line, a pattern reads the values that any pattern reads and that it asks for. -/
theorem matchValue_iff_fits {p : DeclarationPattern} {line v : String} (h : IsOneLine line) :
    p.matchValue line = some v ↔ identity.matchValue line = some v ∧ p.Fits v := by
  have hvalue : grammar.Declares (withoutBreaks line) v.toList → '\n' ∉ v.toList :=
    fun hv hmem => h.newline_notMem (mem_of_declares hv _ hmem)
  rw [matchValue_eq_some, matchValue_eq_some, and_assoc]
  refine and_congr_right fun hv => ?_
  have hfree : '\n' ∉ v.toList := hvalue hv
  rw [admits_toList hfree]
  exact (and_iff_right hfree).symm

/-- A pattern with a query reads a value exactly if it is read whatever is asked, and the value is
the query, or holds it. Without a mode, a query is looked for inside of the value. -/
theorem matchValue_of_query {q : String} (hq : q ≠ "") {line : String} (hline : IsOneLine line)
    (v : String) :
    ((of (some .strict) (some q)).matchValue line = some v ↔
        identity.matchValue line = some v ∧ v = q) ∧
      ((of (some .substring) (some q)).matchValue line = some v ↔
        identity.matchValue line = some v ∧ q.toList <:+: v.toList) ∧
      of none (some q) = of (some .substring) (some q) := by
  have hstrict : of (some .strict) (some q) = exactly q := by simp [of, hq]
  have hsubstring : of (some .substring) (some q) = containing q := by simp [of, hq]
  refine ⟨?_, ?_, ?_⟩
  · rw [hstrict]
    exact matchValue_iff_fits hline
  · rw [hsubstring]
    exact matchValue_iff_fits hline
  · rw [hsubstring]
    simp [of, hq]

/-- A query with a quote and special characters, on a line in the other quotes that ends in a
carriage return and a newline. -/
theorem matchValue_of_query_quotes :
    "\".*" ≠ "" ∧ IsOneLine "_inherit = 'a\".*'\t\r\n" ∧
      (of (some .substring) (some "\".*")).matchValue "_inherit = 'a\".*'\t\r\n" =
        some "a\".*" := by
  have hq : "\".*" ≠ "" := by decide
  have hline : IsOneLine "_inherit = 'a\".*'\t\r\n" :=
    ⟨"_inherit = 'a\".*'\t".toList, ['\r', '\n'], by decide, by decide, by simp⟩
  have hread : identity.matchValue "_inherit = 'a\".*'\t\r\n" = some "a\".*" := by
    refine identity_matchValue.2 ⟨by decide, ⟨[], "_inherit".toList, [' '], [' '], '\'', ['\t'],
      List.forall_mem_nil _, by decide, List.forall_mem_singleton.2 (by decide),
      List.forall_mem_singleton.2 (by decide), by decide,
      List.forall_mem_singleton.2 (by decide)⟩, ?_⟩
    decide
  exact ⟨hq, hline, (matchValue_of_query hq hline _).2.1.2 ⟨hread, by decide⟩⟩

end DeclarationPattern

end AddonAtlas
