import AddonAtlas.Proofs.Bytes
import AddonAtlas.Proofs.Declaration.Reading

/-!
# The written expression

`DeclarationPattern.grepExpression` is read back as the expression of the grammar over bytes, with
the bytes of the query in the place of the value (`parse_grepExpression`). No byte of a query is
read as an operator : the special characters are escaped, and the bytes of all other characters
stand for themselves (`tokensFrom_escape`). A query with a newline would make two
expressions of one, and is left out.
-/

namespace AddonAtlas.DeclarationPattern

open Extended
open Utf8 (byte encode)

/-! ## The grammar over bytes -/

def byteBlank : SymbolClass UInt8 := .oneOf [32, 9]

def byteQuote : SymbolClass UInt8 := .oneOf [34, 39]

def byteSpace : SymbolClass UInt8 := .oneOf [32, 9, 10, 11, 12, 13]

/-- The bytes of a text. -/
def spell (s : String) : List UInt8 := encode s.toList

/-- The grammar of lines of bytes. -/
def byteGrammar : LineGrammar UInt8 :=
  ⟨byteBlank, attributes.map spell, 61, byteQuote, byteSpace⟩

/-- The parts of an expression that takes these bytes. -/
def literalParts (bs : List UInt8) : List (Regex UInt8) :=
  bs.map fun b => .one (.only b)

def anyPart : Regex UInt8 := .many (.noneOf [Bytes.newline])

def valueParts : DeclarationPattern → List (Regex UInt8)
  | free => [anyPart]
  | exactly q => literalParts (spell q)
  | containing q => anyPart :: (literalParts (spell q) ++ [anyPart])

def byteAttribute : Regex UInt8 :=
  .alt (Frame.sequence (literalParts (spell "_name")).reverse)
    (Frame.sequence (literalParts (spell "_inherit")).reverse)

/-- The expression that the written one stands for. -/
def byteRegex (p : DeclarationPattern) : Regex UInt8 :=
  byteGrammar.regex byteAttribute (Frame.sequence p.valueParts.reverse)

/-! ## What it takes -/

theorem takes_sequence_cons {r : Regex UInt8} {rs : List (Regex UInt8)}
    {P Q : List UInt8 → Prop} (hr : r.Takes P) (hrs : (Frame.sequence rs.reverse).Takes Q) :
    (Frame.sequence (r :: rs).reverse).Takes fun m => ∃ a b, m = a ++ b ∧ P a ∧ Q b := by
  cases h : rs.reverse with
  | nil =>
    rw [h] at hrs
    rw [List.reverse_cons, h]
    refine hr.congr fun m => ⟨fun hm => ⟨m, [], by simp, hm, ?_⟩, ?_⟩
    · exact (hrs.unique Regex.takes_empty []).2 rfl
    · rintro ⟨a, b, rfl, ha, hb⟩
      obtain rfl := (hrs.unique Regex.takes_empty b).1 hb
      rwa [List.append_nil]
  | cons r' before =>
    rw [h] at hrs
    have hseq : Frame.sequence (r :: rs).reverse = .seq r (Frame.sequence (r' :: before)) := by
      rw [List.reverse_cons, h]
      simp [Frame.sequence]
    rw [hseq]
    exact Regex.takes_seq hr hrs

theorem takes_literalParts_append (bs : List UInt8) {rs : List (Regex UInt8)}
    {Q : List UInt8 → Prop} (hrs : (Frame.sequence rs.reverse).Takes Q) :
    (Frame.sequence (literalParts bs ++ rs).reverse).Takes fun m => ∃ b, m = bs ++ b ∧ Q b := by
  induction bs with
  | nil => exact hrs.congr fun m => by simp
  | cons c bs ih =>
    refine (takes_sequence_cons (Regex.takes_only c) ih).congr fun m => ?_
    constructor
    · rintro ⟨_, _, rfl, rfl, b, rfl, hb⟩
      exact ⟨b, rfl, hb⟩
    · rintro ⟨b, rfl, hb⟩
      exact ⟨[c], bs ++ b, rfl, rfl, b, rfl, hb⟩

theorem takes_literalParts (bs : List UInt8) :
    (Frame.sequence (literalParts bs).reverse).Takes (· = bs) := by
  have hnil : (Frame.sequence ([] : List (Regex UInt8)).reverse).Takes (· = []) :=
    Regex.takes_empty
  have := takes_literalParts_append bs hnil
  rw [List.append_nil] at this
  exact this.congr fun m => by simp

theorem takes_byteAttribute : byteAttribute.Takes (· ∈ byteGrammar.attributes) :=
  (Regex.takes_alt (takes_literalParts _) (takes_literalParts _)).congr fun m => by
    simp [byteGrammar, attributes]

theorem takes_valueParts (p : DeclarationPattern) :
    (Frame.sequence p.valueParts.reverse).Takes (p.Admits spell Bytes.newline) := by
  cases p with
  | free => exact Regex.takes_anyBut _
  | exactly q => exact takes_literalParts _
  | containing q =>
    have hlast : (Frame.sequence [anyPart].reverse).Takes (Bytes.newline ∉ ·) :=
      Regex.takes_anyBut _
    refine (takes_sequence_cons (Regex.takes_anyBut _)
      (takes_literalParts_append (spell q) hlast)).congr fun m => ?_
    constructor
    · rintro ⟨a, _, rfl, ha, b, rfl, hb⟩
      exact ⟨a, b, rfl, ha, hb⟩
    · rintro ⟨a, b, rfl, ha, hb⟩
      exact ⟨a, _, rfl, ha, b, rfl, hb⟩

/-- The expression selects the lines that declare a value which the pattern admits. -/
theorem selects_byteRegex (p : DeclarationPattern) (line : List UInt8) :
    p.byteRegex.selects (.ofList line) = true ↔
      ∃ v, byteGrammar.Declares line v ∧ p.Admits spell Bytes.newline v := by
  rw [Regex.selects_eq_true (Word.bounded_ofList line)]
  constructor
  · rintro ⟨i, j, caps, -, hruns⟩
    obtain rfl := hruns.eq_zero_of_isAnchored rfl
    obtain ⟨v, -, -, -, -, hv, hdeclares⟩ :=
      LineGrammar.declares_of_runs takes_byteAttribute p.takes_valueParts hruns
    exact ⟨v, hdeclares, hv⟩
  · rintro ⟨v, hdeclares, hv⟩
    obtain ⟨j, caps, hruns⟩ :=
      LineGrammar.exists_runs_regex takes_byteAttribute p.takes_valueParts hdeclares hv
    exact ⟨0, j, caps, Nat.zero_le _, hruns⟩

/-! ## Reading it -/

/-- What stands in front of the value. -/
def front : String := "^[[:blank:]]*(_name|_inherit)[[:blank:]]*=[[:blank:]]*([\"'])("

/-- What stands behind the value. -/
def behind : String := ")\\2[[:space:]]*$"

theorem grepExpression_eq (p : DeclarationPattern) :
    p.grepExpression = front ++ p.extendedValue ++ behind := by
  rfl

def literalTokens (bs : List UInt8) : List Token :=
  bs.map fun b => .atom (.only b)

def anyToken : Token := .repeated (.noneOf [Bytes.newline])

def frontTokens : List Token :=
  [.atStart, .repeated byteBlank, .openGroup] ++ literalTokens (spell "_name") ++ [.bar] ++
    literalTokens (spell "_inherit") ++ [.closeGroup, .repeated byteBlank, .atom (.only 61),
      .repeated byteBlank, .openGroup, .atom byteQuote, .closeGroup, .openGroup]

def valueTokens : DeclarationPattern → List Token
  | free => [anyToken]
  | exactly q => literalTokens (spell q)
  | containing q => anyToken :: (literalTokens (spell q) ++ [anyToken])

def behindTokens : List Token :=
  [.closeGroup, .back 2, .repeated byteSpace, .atEnd]

set_option maxRecDepth 4000 in
theorem tokensFrom_front (rest : List UInt8) :
    tokensFrom .outside [] (spell front ++ rest) =
      tokensFrom .outside frontTokens.reverse rest := by
  rw [spell, Utf8.encode_of_isAscii (by decide)]
  rfl

theorem tokensFrom_behind (acc : List Token) :
    tokensFrom .outside acc (spell behind) = .ok (acc.reverse ++ behindTokens) := by
  have : tokensFrom .outside acc (spell behind) = .ok (behindTokens.reverse ++ acc).reverse := rfl
  rw [this, List.reverse_append, List.reverse_reverse]

/-- A byte that is not special stands for itself. -/
theorem tokensFrom_plain {b : UInt8} (hb : b ∉ extendedSpecial.map byte) (acc : List Token)
    (rest : List UInt8) :
    tokensFrom .outside acc (b :: rest) = tokensFrom .outside (.atom (.only b) :: acc) rest := by
  simp [extendedSpecial, byte] at hb
  simp [tokensFrom, plainToken, hb]

theorem tokensFrom_plains {bs : List UInt8} (hbs : ∀ b ∈ bs, b ∉ extendedSpecial.map byte)
    (acc : List Token) (rest : List UInt8) :
    tokensFrom .outside acc (bs ++ rest) =
      tokensFrom .outside ((literalTokens bs).reverse ++ acc) rest := by
  induction bs generalizing acc with
  | nil => rfl
  | cons b bs ih =>
    obtain ⟨hb, hbs⟩ := List.forall_mem_cons.1 hbs
    rw [List.cons_append, tokensFrom_plain hb, ih hbs]
    simp [literalTokens]

theorem isAscii_extendedSpecial : Utf8.IsAscii extendedSpecial := by
  decide

theorem escapedToken_special {c : Char} (hc : c ∈ extendedSpecial) :
    escapedToken (byte c) = .atom (.only (byte c)) := by
  simp only [extendedSpecial, List.mem_cons, List.not_mem_nil, or_false] at hc
  rcases hc with rfl | rfl | rfl | rfl | rfl | rfl | rfl | rfl | rfl | rfl | rfl | rfl | rfl | rfl
    <;> rfl

/-- A special character stands for itself behind a backslash. -/
theorem tokensFrom_special {c : Char} (hc : c ∈ extendedSpecial) (acc : List Token)
    (rest : List UInt8) :
    tokensFrom .outside acc (encode ['\\', c] ++ rest) =
      tokensFrom .outside ((literalTokens (encode [c])).reverse ++ acc) rest := by
  have hlt := isAscii_extendedSpecial c hc
  have hbytes : encode ['\\', c] = [92, byte c] := by
    rw [Utf8.encode_cons, Utf8.encode_cons, Utf8.encodeChar_of_lt hlt]
    rfl
  have hc' : literalTokens (encode [c]) = [.atom (.only (byte c))] := by
    rw [Utf8.encode_cons, Utf8.encodeChar_of_lt hlt]
    rfl
  rw [hbytes, hc', ← escapedToken_special hc]
  rfl

/-- The bytes of a query stand for themselves. -/
theorem tokensFrom_escape (q : String) (acc : List Token) (rest : List UInt8) :
    tokensFrom .outside acc (spell (escapeExtended q) ++ rest) =
      tokensFrom .outside ((literalTokens (spell q)).reverse ++ acc) rest := by
  simp only [spell, escapeExtended, String.toList_ofList]
  induction q.toList generalizing acc with
  | nil => rfl
  | cons c cs ih =>
    have hsplit : literalTokens (encode (c :: cs)) =
        literalTokens (encode [c]) ++ literalTokens (encode cs) := by
      simp [literalTokens]
    rw [List.flatMap_cons, Utf8.encode_append, List.append_assoc, hsplit, List.reverse_append,
      List.append_assoc, ← ih]
    by_cases hc : c ∈ extendedSpecial
    · rw [if_pos (List.contains_iff_mem.2 hc), tokensFrom_special hc]
    · rw [if_neg (mt List.contains_iff_mem.1 hc)]
      refine tokensFrom_plains (fun b hb hmem => ?_) acc _
      obtain ⟨d, hd, rfl⟩ := List.mem_map.1 hmem
      rw [Utf8.byte_mem_encode (isAscii_extendedSpecial d hd), List.mem_singleton] at hb
      exact hc (hb ▸ hd)

theorem tokensFrom_value (p : DeclarationPattern) (acc : List Token) (rest : List UInt8) :
    tokensFrom .outside acc (spell p.extendedValue ++ rest) =
      tokensFrom .outside (p.valueTokens.reverse ++ acc) rest := by
  have any : ∀ acc rest, tokensFrom .outside acc (spell ".*" ++ rest) =
      tokensFrom .outside (anyToken :: acc) rest := fun _ _ => rfl
  cases p with
  | free => exact any acc rest
  | exactly q => exact tokensFrom_escape q acc rest
  | containing q =>
    have hspell : spell (".*" ++ escapeExtended q ++ ".*") =
        spell ".*" ++ (spell (escapeExtended q) ++ spell ".*") := by
      simp [spell]
    rw [extendedValue, hspell, List.append_assoc, any, List.append_assoc, tokensFrom_escape, any]
    simp [valueTokens]

theorem tokens_grepExpression (p : DeclarationPattern) :
    tokens (spell p.grepExpression) = .ok (frontTokens ++ p.valueTokens ++ behindTokens) := by
  have hspell : spell p.grepExpression =
      spell front ++ (spell p.extendedValue ++ spell behind) := by
    rw [grepExpression_eq]
    simp [spell]
  rw [tokens, hspell, tokensFrom_front, tokensFrom_value, tokensFrom_behind, List.reverse_append,
    List.reverse_reverse, List.reverse_reverse]

theorem finish_literalTokens (bs : List UInt8) (b : Builder) (rest : List Token) :
    b.finish (literalTokens bs ++ rest) =
      Builder.finish { b with inner := { b.inner with
        current := (literalParts bs).reverse ++ b.inner.current } } rest := by
  induction bs generalizing b with
  | nil => rfl
  | cons c bs ih =>
    show (b.push (.one (.only c))).finish (literalTokens bs ++ rest) = _
    rw [ih]
    simp [Builder.push, Frame.push, literalParts]

theorem finish_valueTokens (p : DeclarationPattern) (b : Builder) (rest : List Token) :
    b.finish (p.valueTokens ++ rest) =
      Builder.finish { b with inner := { b.inner with
        current := p.valueParts.reverse ++ b.inner.current } } rest := by
  cases p with
  | free => rfl
  | exactly q => exact finish_literalTokens (spell q) b rest
  | containing q =>
    have hfirst : ∀ ts, b.finish (anyToken :: ts) = (b.push anyPart).finish ts := fun _ => rfl
    rw [valueTokens, List.cons_append, List.append_assoc, hfirst, finish_literalTokens]
    show Builder.finish _ rest = _
    simp [Builder.push, Frame.push, valueParts, anyPart]

/-- The groups read in front of the value, the third of which is open. -/
def frontBuilder : Builder :=
  ⟨3, [2, 1],
    [⟨0, none, [.group 2 (.one byteQuote), .many byteBlank, .one (.only 61), .many byteBlank,
      .group 1 byteAttribute, .many byteBlank, .atStart]⟩], ⟨3, none, []⟩⟩

theorem finish_frontTokens (rest : List Token) :
    Builder.init.finish (frontTokens ++ rest) = frontBuilder.finish rest := by
  rfl

theorem parseLine_grepExpression (p : DeclarationPattern) :
    parseLine (spell p.grepExpression) = .ok p.byteRegex := by
  simp only [parseLine, tokens_grepExpression]
  rw [List.append_assoc, finish_frontTokens, finish_valueTokens]
  simp only [frontBuilder, List.append_nil]
  rfl

/-- The characters of an expression are its own, special ones, or those of the query. -/
theorem mem_grepExpression {p : DeclarationPattern} {c : Char} (hc : c ∈ p.grepExpression.toList) :
    c ∈ free.grepExpression.toList ∨ c ∈ extendedSpecial ∨
      ∃ q, p.query? = some q ∧ c ∈ q.toList := by
  have hesc : ∀ q : String, c ∈ (escapeExtended q).toList → c ∈ extendedSpecial ∨ c ∈ q.toList := by
    intro q hq
    simp only [escapeExtended, String.toList_ofList, List.mem_flatMap] at hq
    obtain ⟨d, hd, hcd⟩ := hq
    split at hcd
    · next hspecial =>
      rcases List.mem_cons.1 hcd with rfl | hcd
      · exact .inl List.mem_cons_self
      · rw [List.mem_singleton.1 hcd]
        exact .inl (List.contains_iff_mem.1 hspecial)
    · rw [List.mem_singleton.1 hcd]
      exact .inr hd
  have hvalue : c ∈ p.extendedValue.toList →
      c ∈ free.extendedValue.toList ∨ c ∈ extendedSpecial ∨
        ∃ q, p.query? = some q ∧ c ∈ q.toList := by
    intro hv
    cases p with
    | free => exact .inl hv
    | exactly q => exact .inr ((hesc q hv).imp_right fun h => ⟨q, rfl, h⟩)
    | containing q =>
      simp only [extendedValue, String.toList_append, List.mem_append] at hv
      rcases hv with (hv | hv) | hv
      · exact .inl hv
      · exact .inr ((hesc q hv).imp_right fun h => ⟨q, rfl, h⟩)
      · exact .inl hv
  rw [grepExpression_eq] at hc ⊢
  simp only [String.toList_append, List.mem_append] at hc ⊢
  rcases hc with (hc | hc) | hc
  · exact .inl (.inl (.inl hc))
  · exact (hvalue hc).imp_left fun h => .inl (.inr h)
  · exact .inl (.inr hc)

/-- The characters of the query are in the expression. -/
theorem mem_grepExpression_of_query {p : DeclarationPattern} {q : String} (hp : p.query? = some q)
    {c : Char} (hc : c ∈ q.toList) : c ∈ p.grepExpression.toList := by
  have hescape : c ∈ (escapeExtended q).toList := by
    rw [escapeExtended, String.toList_ofList]
    refine List.mem_flatMap.2 ⟨c, hc, ?_⟩
    split <;> simp
  have hvalue : c ∈ p.extendedValue.toList := by
    cases p with
    | free => cases hp
    | exactly q' =>
      cases hp
      exact hescape
    | containing q' =>
      cases hp
      simp only [extendedValue, String.toList_append, List.mem_append]
      exact .inl (.inr hescape)
  rw [grepExpression_eq]
  simp only [String.toList_append, List.mem_append]
  exact .inl (.inr hvalue)

theorem newline_notMem_grepExpression {p : DeclarationPattern}
    (hp : ∀ q, p.query? = some q → '\n' ∉ q.toList) :
    Bytes.newline ∉ spell p.grepExpression := by
  rw [spell, Bytes.newline_mem_encode]
  intro hmem
  rcases mem_grepExpression hmem with h | h | ⟨q, hq, h⟩
  · exact absurd h (by decide)
  · exact absurd h (by decide)
  · exact hp q hq h

/-- The written expression of a pattern is read back as the expression of the grammar over bytes. -/
theorem parse_grepExpression {p : DeclarationPattern}
    (hp : ∀ q, p.query? = some q → '\n' ∉ q.toList) :
    parse (Bytes.ofString p.grepExpression).toList = .ok [p.byteRegex] := by
  have hlines : patternLines (spell p.grepExpression) = [spell p.grepExpression] :=
    List.splitOnP_eq_singleton fun b hb =>
      beq_false_of_ne fun he => newline_notMem_grepExpression hp (he ▸ hb)
  rw [Bytes.toList_ofString]
  show parse (spell p.grepExpression) = _
  simp [parse, hlines, parseLine_grepExpression]

/-- A word is selected by what the written expression is read as exactly if the expression of the
grammar selects it. -/
theorem any_selects_iff {p : DeclarationPattern} (hp : ∀ q, p.query? = some q → '\n' ∉ q.toList)
    {w : Word UInt8} :
    (∃ rs, parse (Bytes.ofString p.grepExpression).toList = .ok rs ∧
        rs.any (fun r => r.selects w) = true) ↔ p.byteRegex.selects w = true := by
  rw [parse_grepExpression hp]
  simp

/-! ## Queries with newlines -/

/-- An expression that ends inside of the value leaves a group open. -/
theorem parseLine_unclosed (q : String) :
    parseLine (spell front ++ spell (escapeExtended q)) = .error .unmatchedOpen ∧
      parseLine (spell front ++ (spell ".*" ++ spell (escapeExtended q))) =
        .error .unmatchedOpen := by
  have hend : ∀ acc, tokensFrom .outside acc (spell (escapeExtended q)) =
      .ok (acc.reverse ++ literalTokens (spell q)) := fun acc => by
    have := tokensFrom_escape q acc []
    rw [List.append_nil] at this
    rw [this, tokensFrom, List.reverse_append, List.reverse_reverse]
  have any : ∀ acc rest, tokensFrom .outside acc (spell ".*" ++ rest) =
      tokensFrom .outside (anyToken :: acc) rest := fun _ _ => rfl
  have hopen : ∀ b : Builder, b.outer ≠ [] →
      b.finish (literalTokens (spell q)) = .error .unmatchedOpen := fun b hb => by
    have := finish_literalTokens (spell q) b []
    rw [List.append_nil] at this
    rw [this, Builder.finish, if_neg (by simpa using hb)]
  constructor
  · rw [parseLine, tokens, tokensFrom_front, hend, List.reverse_reverse]
    exact (finish_frontTokens _).trans (hopen _ (List.cons_ne_nil _ _))
  · rw [parseLine, tokens, tokensFrom_front, any, hend, List.reverse_cons, List.reverse_reverse,
      List.append_assoc]
    refine (finish_frontTokens _).trans ?_
    exact hopen (frontBuilder.push anyPart) (List.cons_ne_nil _ _)

theorem escapeExtended_append (s t : String) :
    escapeExtended (s ++ t) = escapeExtended s ++ escapeExtended t := by
  apply String.toList_inj.1
  simp [escapeExtended]

theorem spell_append (s t : String) : spell (s ++ t) = spell s ++ spell t := by
  simp [spell]

/-- The written expression of a query with a newline is faulty : its first line ends inside of the
value. -/
theorem parse_grepExpression_newline {p : DeclarationPattern} {q : String} (hp : p.query? = some q)
    (hq : '\n' ∈ q.toList) :
    ∃ faults, parse (Bytes.ofString p.grepExpression).toList = .error faults := by
  obtain ⟨s, t, rfl, hs⟩ : ∃ s t : String, q = s ++ "\n" ++ t ∧ '\n' ∉ s.toList := by
    obtain ⟨s, t, hst, hs⟩ := List.eq_append_cons_of_mem hq
    refine ⟨String.ofList s, String.ofList t, String.toList_inj.1 ?_, by simpa using hs⟩
    simp [hst]
  have hfree : ∀ p' : DeclarationPattern, p'.query? = some s →
      Bytes.newline ∉ spell p'.grepExpression := fun p' hp' =>
    newline_notMem_grepExpression fun q hq' => by
      rw [hp'] at hq'
      cases hq'
      exact hs
  have hnewline : spell (escapeExtended "\n") = [Bytes.newline] := by decide
  obtain ⟨first, rest, hsplit, hfirst, hfault⟩ : ∃ first rest,
      spell p.grepExpression = first ++ Bytes.newline :: rest ∧
        Bytes.newline ∉ first ∧ parseLine first = .error .unmatchedOpen := by
    cases p with
    | free => cases hp
    | exactly q' =>
      cases hp
      have hs' := hfree (exactly s) rfl
      simp only [grepExpression_eq, extendedValue, spell_append, List.mem_append, not_or] at hs'
      refine ⟨_, spell (escapeExtended t) ++ spell behind, ?_, ?_, (parseLine_unclosed s).1⟩
      · simp [grepExpression_eq, extendedValue, escapeExtended_append, spell_append, hnewline]
      · simp [hs'.1.1, hs'.1.2]
    | containing q' =>
      cases hp
      have hs' := hfree (containing s) rfl
      simp only [grepExpression_eq, extendedValue, spell_append, List.mem_append, not_or] at hs'
      refine ⟨_, spell (escapeExtended t) ++ (spell ".*" ++ spell behind), ?_, ?_,
        (parseLine_unclosed s).2⟩
      · simp [grepExpression_eq, extendedValue, escapeExtended_append, spell_append, hnewline]
      · simp [hs'.1.1, hs'.1.2.1]
  have hlines : patternLines (spell p.grepExpression) = first :: rest.splitOn Bytes.newline := by
    rw [hsplit, patternLines]
    exact List.splitOnP_append_cons_of_forall_mem
      (fun b hb => beq_false_of_ne fun he : b = Bytes.newline => hfirst (he ▸ hb)) _
      (beq_self_eq_true _) rest
  have hparse : parse (Bytes.ofString p.grepExpression).toList = parse (spell p.grepExpression) := by
    rw [Bytes.toList_ofString, spell]
  rw [hparse, parse]
  simp [hlines, hfault]

end AddonAtlas.DeclarationPattern
