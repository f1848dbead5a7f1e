import AddonAtlas.Proofs.Scan.Search

/-!
# Places of hits

The hits of a scan by the search program are those that are read off its reports on the single
files (`exists_visit_of_mem_hits`), whatever the names and the contents of the files and the text
searched for. A hit on a file that goes by the path of that file is at one of its lines : it has
the number of this line, counted in newlines, and its text (`exists_lineAt_of_mem_hitsIn`).

The path of a hit has no colon and no newline, so a report on a file with such a path gives no
hit at this path ; and a report that does not name its file gives no hit at all.
-/

namespace AddonAtlas

open AddonAtlas.Text
open Bytes (newline Ended LineAt)
open Utf8 (encode decode)

/-! ## Lines of pieces -/

/-- Whole lines are not changed by what comes behind. -/
theorem linesOf_append_of_ended {l : List UInt8} (h : Ended l) (rest : List UInt8) :
    linesOf (l ++ rest) = linesOf l ++ linesOf rest := by
  induction l with
  | nil => rfl
  | cons b t ih =>
    rcases h.cons with ⟨rfl, rfl⟩ | ⟨hne, ht⟩
    · rfl
    · rw [List.cons_append, linesOf, linesOf, ih ht]
      split
      · rfl
      · cases hlines : linesOf t with
        | nil => exact absurd (linesOf_eq_nil.1 hlines) hne
        | cons line lines => rfl

theorem linesOf_flatMap_of_ended {α : Type} {f : α → List UInt8} {xs : List α}
    (h : ∀ x ∈ xs, Ended (f x)) :
    linesOf (xs.flatMap f) = xs.flatMap fun x => linesOf (f x) := by
  induction xs with
  | nil => rfl
  | cons x xs ih =>
    obtain ⟨hx, hxs⟩ := List.forall_mem_cons.1 h
    rw [List.flatMap_cons, List.flatMap_cons, linesOf_append_of_ended hx, ih hxs]

/-! ## Records -/

theorem Reading.ofLine?_of_hitOn {limit : Nat} {line : List UInt8} {h : Hit}
    (hhit : hitOn limit line = some h) : Hit.ofLine? (.ofList line) = some h := by
  rw [hitOn] at hhit
  split at hhit
  · exact hhit
  · cases hhit

namespace Hit

theorem eq_of_splitColon {cs ds es : List Char} (h : splitColon cs = some (ds, es)) :
    cs = ds ++ ':' :: es ∧ ':' ∉ ds := by
  have hsplit := List.takeWhile_append_dropWhile (p := (· != ':')) (l := cs)
  have hhead := List.head?_dropWhile_not (· != ':') cs
  rw [splitColon] at h
  split at h
  · cases h
  · next c rest hdrop =>
    cases h
    rw [hdrop] at hsplit hhead
    obtain rfl : c = ':' := by simpa using hhead
    refine ⟨hsplit.symm, fun hmem => ?_⟩
    simpa using List.mem_takeWhile_imp hmem

/-- The path of a hit is what stands in front of the first colon of its record. -/
theorem path_of_parse? {cs : List Char} {h : Hit} (hparse : parse? (String.ofList cs) = some h) :
    ∃ rest, cs = h.path.toList ++ ':' :: rest ∧ ':' ∉ h.path.toList := by
  rw [parse?, String.toList_ofList] at hparse
  obtain ⟨⟨path, rest⟩, hpath, hparse⟩ := Option.bind_eq_some_iff.1 hparse
  obtain ⟨⟨number, text⟩, -, hparse⟩ := Option.bind_eq_some_iff.1 hparse
  simp only at hparse
  split at hparse
  · cases hparse
  · split at hparse
    · cases hparse
    · cases hparse
      rw [String.toList_ofList]
      exact ⟨rest, eq_of_splitColon hpath⟩

end Hit

/-- A line that declares a value is not empty. -/
theorem LineGrammar.Declares.ne_nil {α : Type} [BEq α] {g : LineGrammar α} {line v : List α}
    (h : g.Declares line v) : line ≠ [] := by
  obtain ⟨b₁, a, b₂, b₃, q, e, rfl, -⟩ := h
  simp

namespace DeclarationPattern

/-- The text of a line that declares a value begins with blanks and an underscore, whatever bytes
stand in the value. -/
theorem exists_underscore_decode {line v : List UInt8} (h : byteGrammar.Declares line v) :
    ∃ b rest, decode line = b ++ '_' :: rest ∧ ∀ c ∈ b, blank.accepts c := by
  obtain ⟨b₁, a, b₂, b₃, q, e, rfl, hb, ha, -⟩ := h
  obtain ⟨as, has, rfl⟩ := mem_byteAttributes.1 ha
  obtain ⟨as, rfl⟩ := exists_of_mem_attributes has
  obtain ⟨b, rfl⟩ : ∃ b, b₁ = encode b := by
    clear ha has
    induction b₁ with
    | nil => exact ⟨[], rfl⟩
    | cons x t ih =>
      obtain ⟨hx, ht⟩ := List.forall_mem_cons.1 hb
      obtain ⟨b, rfl⟩ := ih ht
      simp only [byteGrammar, byteBlank, accepts_oneOf, List.mem_cons, List.not_mem_nil,
        or_false] at hx
      rcases hx with rfl | rfl
      · exact ⟨' ' :: b, rfl⟩
      · exact ⟨'\t' :: b, rfl⟩
  refine ⟨b, as ++ decode (b₂ ++ byteGrammar.equals :: (b₃ ++ q :: (v ++ q :: e))), ?_,
    forall_byteBlank.1 hb⟩
  rw [← List.append_assoc, ← Utf8.encode_append, Utf8.decode_encode_append, List.append_assoc,
    List.cons_append]

end DeclarationPattern

/-! ## Files -/

namespace TreeSearch

/-- The hits that a scan reads off the reports of a pattern on a file. -/
def hitsIn (limit : Nat) (p : DeclarationPattern) (named : Bool) (v : Visit) : List Hit :=
  (linesOf ((reportsOn [p.byteRegex] named v).flatMap Bytes.toList)).filterMap
    (Reading.hitOn limit)

/-- A report is what is written on a line that the pattern selects. -/
theorem exists_of_mem_reportsOn {p : DeclarationPattern} {named : Bool} {path : String}
    {content b : Bytes} (h : b ∈ reportsOn [p.byteRegex] named (.file path content)) :
    ∃ i line, content.beforeNul.lines[i]? = some line ∧ b = report named path (i + 1) line ∧
      p.byteRegex.selects (.ofList line.toList) = true := by
  obtain ⟨⟨line, n⟩, hmem, rfl⟩ := List.mem_map.1 h
  obtain ⟨hmem, hselects⟩ := List.mem_filter.1 hmem
  obtain ⟨hle, hline⟩ := List.mk_mem_zipIdx_iff_le_and_getElem?_sub.1 hmem
  have hselects : p.byteRegex.selects line.word = true := by simpa using hselects
  exact ⟨n - 1, line, hline, by rw [Nat.sub_add_cancel hle], Bytes.word_eq line ▸ hselects⟩

theorem ended_of_mem_reportsOn {p : DeclarationPattern} {named : Bool} {v : Visit} {b : Bytes}
    (h : b ∈ reportsOn [p.byteRegex] named v) : Ended b.toList := by
  cases v with
  | unreadable => exact absurd h List.not_mem_nil
  | file path content =>
    obtain ⟨i, line, -, rfl, -⟩ := exists_of_mem_reportsOn h
    exact .inr ⟨_, toList_report named path (i + 1) line⟩

theorem ended_flatMap {bs : List Bytes} (h : ∀ b ∈ bs, Ended b.toList) :
    Ended (bs.flatMap Bytes.toList) := by
  induction bs with
  | nil => exact .inl rfl
  | cons b bs ih =>
    obtain ⟨hb, hbs⟩ := List.forall_mem_cons.1 h
    rw [List.flatMap_cons]
    rcases ih hbs with hnil | ⟨s, hs⟩
    · rwa [hnil, List.append_nil]
    · exact .inr ⟨b.toList ++ s, by rw [hs, List.append_assoc]⟩

/-- Reports are read file by file. -/
theorem filterMap_output (limit : Nat) (t : FileTree) (roots : List String)
    (p : DeclarationPattern) :
    (linesOf ((output t roots p).flatMap Bytes.toList)).filterMap (Reading.hitOn limit) =
      (roots.flatMap (visitRoot t)).flatMap (hitsIn limit p (namesFiles t roots)) := by
  rw [output, List.flatMap_assoc, linesOf_flatMap_of_ended, List.filterMap_flatMap]
  · rfl
  · exact fun v _ => ended_flatMap fun b => ended_of_mem_reportsOn

/-- A report is one line. -/
theorem linesOf_report {path : String} (hpath : '\n' ∉ path.toList) (named : Bool) (n : Nat)
    {line : Bytes} (hline : newline ∉ line.toList) :
    linesOf (report named path n line).toList = [(report named path n line).toList] := by
  rw [toList_report, linesOf_append (newline_notMem_report hpath named n hline)]
  rfl

/-- A line that the pattern selects is a hit, if its report keeps to the limit. -/
theorem mem_hitsIn {limit : Nat} {p : DeclarationPattern} {path : String} {content line : Bytes}
    {i : Nat} {n : Int} (hcolon : ':' ∉ path.toList) (hpath : '\n' ∉ path.toList)
    (hline : content.beforeNul.lines[i]? = some line) (hselects : p.byteRegex.selects line.word)
    (hnumber : Hit.number? (toString (i + 1)).toList = some n)
    (hlimit : (encode (record true path (i + 1) [])).length + line.toList.length ≤ limit) :
    ⟨path, n, String.ofList (decode line.toList)⟩ ∈ hitsIn limit p true (.file path content) := by
  obtain ⟨_, _, hat⟩ := Bytes.exists_lineAt hline
  have hmem : report true path (i + 1) line ∈ reportsOn [p.byteRegex] true (.file path content) := by
    refine List.mem_map.2 ⟨(line, i + 1), List.mem_filter.2 ⟨?_, by simpa using hselects⟩, rfl⟩
    exact List.mk_mem_zipIdx_iff_le_and_getElem?_sub.2 ⟨Nat.le_add_left 1 i, hline⟩
  have hsize : textLength (report true path (i + 1) line).toList ≤ limit := by
    rw [toList_report, textLength_append, List.length_append]
    exact hlimit
  rw [hitsIn, linesOf_flatMap_of_ended fun b => ended_of_mem_reportsOn]
  refine List.mem_filterMap.2 ⟨(report true path (i + 1) line).toList,
    List.mem_flatMap.2 ⟨_, hmem, ?_⟩, ?_⟩
  · rw [linesOf_report hpath true (i + 1) hat.free]
    exact List.mem_singleton_self _
  · rw [Reading.hitOn, if_pos hsize, ← Hit.ofLine?_eq, ofLine?_report hpath true (i + 1) hat.free,
      parse?_record hcolon, hnumber]
    rfl

/-- No line of a report has a newline, so neither has the path of a hit. -/
theorem newline_notMem_path {limit : Nat} {p : DeclarationPattern} {named : Bool} {v : Visit}
    {h : Hit} (hh : h ∈ hitsIn limit p named v) : '\n' ∉ h.path.toList := fun hmem => by
  obtain ⟨l, hl, hhit⟩ := List.mem_filterMap.1 hh
  replace hhit := Reading.ofLine?_of_hitOn hhit
  obtain ⟨m, hm, hlm⟩ := exists_of_mem_linesOf hl
  rw [Hit.ofLine?_eq_parse? hm (by rw [Bytes.toList_ofList]; exact hlm.imp_left And.left)] at hhit
  obtain ⟨rest, hm', -⟩ := Hit.path_of_parse? hhit
  exact hm (Utf8.byte_mem_of_mem_decode (c := '\n') (by decide) (by decide)
    (hm' ▸ List.mem_append_left _ hmem))

/-- A hit on a file is read off the record of a line that the pattern selects. -/
theorem exists_record_of_mem_hitsIn {limit : Nat} {p : DeclarationPattern} {named : Bool}
    {path : String} {content : Bytes} (hpath : '\n' ∉ path.toList) {h : Hit}
    (hh : h ∈ hitsIn limit p named (.file path content)) :
    ∃ i line, content.beforeNul.lines[i]? = some line ∧
      p.byteRegex.selects (.ofList line.toList) = true ∧
      Hit.parse? (String.ofList (record named path (i + 1) (decode line.toList))) = some h := by
  rw [hitsIn, linesOf_flatMap_of_ended fun b => ended_of_mem_reportsOn] at hh
  obtain ⟨l, hl, hhit⟩ := List.mem_filterMap.1 hh
  replace hhit := Reading.ofLine?_of_hitOn hhit
  obtain ⟨b, hb, hl⟩ := List.mem_flatMap.1 hl
  obtain ⟨i, line, hline, rfl, hselects⟩ := exists_of_mem_reportsOn hb
  obtain ⟨_, _, hat⟩ := Bytes.exists_lineAt hline
  rw [linesOf_report hpath named (i + 1) hat.free, List.mem_singleton] at hl
  rw [hl, ← Hit.ofLine?_eq, ofLine?_report hpath named (i + 1) hat.free] at hhit
  exact ⟨i, line, hline, hselects, hhit⟩

/-- A report that does not name its file is not read. -/
theorem parse?_record_of_selects {p : DeclarationPattern} {line : List UInt8}
    (hselects : p.byteRegex.selects (.ofList line) = true) (path : String) (n : Nat) :
    Hit.parse? (String.ofList (record false path n (decode line))) = none := by
  obtain ⟨v, hdeclares, -⟩ := (DeclarationPattern.selects_byteRegex p line).1 hselects
  obtain ⟨b, rest, hdecode, hblank⟩ := DeclarationPattern.exists_underscore_decode hdeclares
  rw [hdecode, parse?_record_unnamed _ _ hblank]

/-- A hit on a file that goes by the file's path is at one of its lines. -/
theorem exists_lineAt_of_mem_hitsIn {limit : Nat} {p : DeclarationPattern} {named : Bool}
    {content : Bytes} (hnul : 0 ∉ content.toList) {h : Hit}
    (hh : h ∈ hitsIn limit p named (.file h.path content)) :
    ∃ i before line after, LineAt content.toList i before line after ∧
      h.line = i + 1 ∧ h.text = String.ofList (decode line) ∧
      ∃ v, DeclarationPattern.byteGrammar.Declares line v := by
  obtain ⟨i, line, hline, hselects, hparse⟩ :=
    exists_record_of_mem_hitsIn (newline_notMem_path hh) hh
  rw [Bytes.beforeNul_eq_self hnul] at hline
  obtain ⟨before, after, hat⟩ := Bytes.exists_lineAt hline
  cases named with
  | true =>
    obtain ⟨-, -, hcolon⟩ := Hit.path_of_parse? hparse
    obtain ⟨v, hdeclares, -⟩ := (DeclarationPattern.selects_byteRegex p line.toList).1 hselects
    rw [parse?_record hcolon] at hparse
    obtain ⟨k, hk, hhit⟩ := Option.map_eq_some_iff.1 hparse
    have hnumber : k = h.line := congrArg Hit.line hhit
    have htext : String.ofList (decode line.toList) = h.text := congrArg Hit.text hhit
    refine ⟨i, before, line.toList, after, hat, ?_, htext.symm, v, hdeclares⟩
    rw [← hnumber, Hit.eq_of_number?_toString hk, Int.natCast_succ]
  | false =>
    rw [parse?_record_of_selects hselects] at hparse
    cases hparse

end TreeSearch

/-! ## Scans -/

namespace ScanRun

open TreeSearch

theorem hits_ofRefusal (program : String) (r : Launch.Refusal) : (ofRefusal program r).hits = [] := by
  cases r <;> rfl

/-- A hit of a scan is read off the reports on one of the files. -/
theorem exists_visit_of_mem_hits {t : FileTree} {environment : List (String × String)}
    {grep : String} (hgrep : Launch.FindsGrep t environment grep) {roots : List String}
    {p : DeclarationPattern} {limit : Nat} {budget : Int} {h : Hit}
    (hh : h ∈ (run t environment limit ⟨roots, p, grep, budget⟩).hits) :
    ∃ v ∈ roots.flatMap (visitRoot t), h ∈ hitsIn limit p (namesFiles t roots) v := by
  by_cases hroots : roots = []
  · subst hroots
    exact absurd hh List.not_mem_nil
  rw [run_arguments hgrep hroots] at hh
  cases hrefusal : Launch.refusal? grep (arguments p.grepExpression roots) with
  | some refusal => simp [hrefusal, hits_ofRefusal] at hh
  | none =>
    rw [hrefusal] at hh
    have hlines : h ∈ (linesOf (search t p.grepExpression roots).written).filterMap
        (Reading.hitOn limit) := by
      rw [ofExecution, read_written, Reading.hits_ofLines, List.reverse_nil, List.nil_append] at hh
      exact ((prefix_within budget 0 _).sublist.filterMap _).mem hh
    by_cases hp : ∀ q, p.query? = some q → '\n' ∉ q.toList
    · obtain ⟨status, hsearch⟩ := search_eq t roots hp
      rw [hsearch, Execution.written, filterMap_output] at hlines
      exact List.mem_flatMap.1 hlines
    · -- the expression is faulty
      simp only [not_forall, not_not] at hp
      obtain ⟨q, hq, hmem⟩ := hp
      obtain ⟨faults, hfaults⟩ := DeclarationPattern.parse_grepExpression_newline hq hmem
      have hnil : (search t p.grepExpression roots).written = [] := by
        rw [search, hfaults]
        rfl
      rw [hnil] at hlines
      exact absurd hlines List.not_mem_nil

end ScanRun

end AddonAtlas
